import ParLang.Number.Shortest
import ParLang.Proofs.Number.Bits

/-!
# Rounding to the nearest double

`Interval.around` is what its name promises: every number of the interval around a double is rounded
to it. The numbers are rational here, `num / den` for the quotient that the rounding is given.
-/

namespace ParLang.Number

/-- The integer within half of the quotient is the rounded one, when an odd one is nearer than half. -/
theorem roundHalfEven_eq {n d r : Nat} (hd : 0 < d) (hlow : d * (2 * r) ≤ 2 * n + d)
    (hhigh : 2 * n ≤ d * (2 * r) + d)
    (hodd : r % 2 = 1 → d * (2 * r) < 2 * n + d ∧ 2 * n < d * (2 * r) + d) :
    roundHalfEven n d = r := by
  obtain ⟨q, k, hk, rfl⟩ : ∃ q k, k < d ∧ n = d * q + k :=
    ⟨n / d, n % d, Nat.mod_lt _ hd, (Nat.div_add_mod n d).symm⟩
  unfold roundHalfEven
  simp only [Nat.mul_add_mod, Nat.mod_eq_of_lt hk, Nat.mul_add_div hd, Nat.div_eq_of_lt hk]
  rw [Nat.mul_left_comm] at hlow hhigh hodd
  have hqr : q ≤ r := by
    have : d * q < d * (r + 1) := by rw [Nat.mul_add]; omega
    have := Nat.lt_of_mul_lt_mul_left this
    omega
  have hrq : r ≤ q + 1 := by
    have : d * r < d * (q + 2) := by rw [Nat.mul_add]; omega
    have := Nat.lt_of_mul_lt_mul_left this
    omega
  obtain rfl | rfl : r = q ∨ r = q + 1 := by omega
  · split_ifs <;> omega
  · rw [Nat.mul_add] at hlow hhigh hodd
    split_ifs <;> omega

/-- Dividing by a power of two is done on one side of the fraction or on the other. -/
theorem scaleDown_spec (num : Nat) {den : Nat} (hden : 0 < den) (E : Int) :
    0 < (scaleDown num den E).2 ∧
      ((scaleDown num den E).1 : ℚ) / (scaleDown num den E).2 = (num : ℚ) / den / 2 ^ E := by
  unfold scaleDown
  split
  case isTrue h =>
    refine ⟨hden, ?_⟩
    obtain ⟨k, rfl⟩ : ∃ k : Nat, E = -k := ⟨(-E).toNat, by omega⟩
    simp [twoTo]
    field_simp
  case isFalse h =>
    obtain ⟨k, rfl⟩ : ∃ k : Nat, E = k := ⟨E.toNat, by omega⟩
    simp [twoTo]
    field_simp
    simpa using hden

/-- The logarithm is between two powers. -/
theorem log2_spec {n : Nat} (hn : 0 < n) :
    (2 : ℚ) ^ (n.log2 : Int) ≤ n ∧ (n : ℚ) < 2 ^ (n.log2 + 1 : Int) := by
  constructor
  · exact_mod_cast Nat.log2_self_le hn.ne'
  · exact_mod_cast Nat.lt_log2_self

/-- A fraction is less than a power of two if it is less than one once divided by it. -/
theorem scaleDown_lt_iff {num den : Nat} (hden : 0 < den) (E : Int) :
    (scaleDown num den E).1 < (scaleDown num den E).2 ↔ (num : ℚ) / den < 2 ^ E := by
  obtain ⟨hpos, hval⟩ := scaleDown_spec num hden E
  have hscaled : (num : ℚ) / den < 2 ^ E ↔ (num : ℚ) / den / 2 ^ E < 1 :=
    (div_lt_one (by positivity)).symm
  rw [hscaled, ← hval, div_lt_one (by exact_mod_cast hpos), Nat.cast_lt]

/-- The leading exponent is where the leading digit of the fraction stands. -/
theorem leadingExponent_spec {num den : Nat} (hnum : 0 < num) (hden : 0 < den) :
    (2 : ℚ) ^ leadingExponent num den ≤ (num : ℚ) / den ∧
      (num : ℚ) / den < 2 ^ (leadingExponent num den + 1) := by
  obtain ⟨hnum1, hnum2⟩ := log2_spec hnum
  obtain ⟨hden1, hden2⟩ := log2_spec hden
  have hpos : (0 : ℚ) < den := by exact_mod_cast hden
  have hlow : (2 : ℚ) ^ ((num.log2 : Int) - den.log2 - 1) ≤ (num : ℚ) / den := by
    rw [le_div_iff₀ hpos]
    calc (2 : ℚ) ^ ((num.log2 : Int) - den.log2 - 1) * den
        ≤ 2 ^ ((num.log2 : Int) - den.log2 - 1) * 2 ^ (den.log2 + 1 : Int) := by gcongr
      _ = 2 ^ (num.log2 : Int) := by rw [← zpow_add₀ (by norm_num)]; congr 1; omega
      _ ≤ num := hnum1
  have hhigh : (num : ℚ) / den < 2 ^ ((num.log2 : Int) - den.log2 + 1) := by
    rw [div_lt_iff₀ hpos]
    calc (num : ℚ) < 2 ^ (num.log2 + 1 : Int) := hnum2
      _ = 2 ^ ((num.log2 : Int) - den.log2 + 1) * 2 ^ (den.log2 : Int) := by
        rw [← zpow_add₀ (by norm_num)]; congr 1; omega
      _ ≤ _ := by gcongr
  unfold leadingExponent
  simp only [scaleDown_lt_iff hden]
  split
  case isTrue h => exact ⟨hlow, by simpa using h⟩
  case isFalse h => exact ⟨not_lt.mp h, hhigh⟩


/-- Rounding at an exponent: `r` is the rounded quotient when `r · 2 ^ E` is within half a place. -/
theorem roundHalfEven_scaleDown {num den r : Nat} {E : Int} (hden : 0 < den)
    (hlow : (r - 1 / 2 : ℚ) * 2 ^ E ≤ (num : ℚ) / den)
    (hhigh : (num : ℚ) / den ≤ (r + 1 / 2 : ℚ) * 2 ^ E)
    (hodd : r % 2 = 1 →
      (r - 1 / 2 : ℚ) * 2 ^ E < (num : ℚ) / den ∧ (num : ℚ) / den < (r + 1 / 2 : ℚ) * 2 ^ E) :
    roundHalfEven (scaleDown num den E).1 (scaleDown num den E).2 = r := by
  obtain ⟨hpos, hval⟩ := scaleDown_spec num hden E
  generalize scaleDown num den E = s at hpos hval ⊢
  have htwo : (0 : ℚ) < 2 ^ E := by positivity
  have hd : (0 : ℚ) < s.2 := by exact_mod_cast hpos
  rw [← le_div_iff₀ htwo, ← hval, le_div_iff₀ hd] at hlow
  rw [← div_le_iff₀ htwo, ← hval, div_le_iff₀ hd] at hhigh
  rw [← lt_div_iff₀ htwo, ← hval, lt_div_iff₀ hd, ← div_lt_iff₀ htwo, ← hval, div_lt_iff₀ hd] at hodd
  apply roundHalfEven_eq hpos
  · qify; linarith
  · qify; linarith
  · intro hr
    obtain ⟨h1, h2⟩ := hodd hr
    constructor
    · qify; linarith
    · qify; linarith

/-- The interval holds the number, at an end only when it is closed. -/
structure Interval.Mem (i : Interval) (v : ℚ) : Prop where
  low : i.low * 2 ^ i.exponent ≤ v
  high : v ≤ i.high * 2 ^ i.exponent
  inner : i.closed = false → i.low * 2 ^ i.exponent < v ∧ v < i.high * 2 ^ i.exponent

/-- No other exponent is that of the leading digit. -/
theorem leadingExponent_eq {num den : Nat} (hnum : 0 < num) (hden : 0 < den) {L : Int}
    (hlow : (2 : ℚ) ^ L ≤ (num : ℚ) / den) (hhigh : (num : ℚ) / den < 2 ^ (L + 1)) :
    leadingExponent num den = L := by
  obtain ⟨h1, h2⟩ := leadingExponent_spec hnum hden
  have := (zpow_lt_zpow_iff_right₀ (by norm_num : (1 : ℚ) < 2)).mp (lt_of_le_of_lt h1 hhigh)
  have := (zpow_lt_zpow_iff_right₀ (by norm_num : (1 : ℚ) < 2)).mp (lt_of_le_of_lt hlow h2)
  omega


section
variable {m : Nat} {e : Int} {v : ℚ}

/-- A quarter of a power of two. -/
theorem zpow_quarter (e : Int) : (2 : ℚ) ^ (e - 2) = 2 ^ e / 4 := by
  rw [zpow_sub₀ (by norm_num)]
  norm_num

/-- The lower end of the interval around a number, in quarters of its last place. Below a power of two the
numbers lie closer. -/
theorem cast_low_around (hm : 0 < m) : ((Interval.around m e).low : ℚ) =
    4 * m - if m = twoTo 52 ∧ -1074 < e then 1 else 2 := by
  simp only [Interval.around]
  split_ifs
  · rw [Nat.cast_sub (by omega)]; push_cast; rfl
  · rw [Nat.cast_sub (by omega)]; push_cast; rfl

/-- The lower end is at most half a place below the number. -/
theorem low_around (hm : 0 < m) :
    (m - 1 / 2 : ℚ) * 2 ^ e ≤ (Interval.around m e).low * 2 ^ (Interval.around m e).exponent := by
  have hhalf : (m - 1 / 2 : ℚ) * 2 ^ e = (4 * m - 2) * (2 ^ e / 4) := by ring
  rw [hhalf, cast_low_around hm]
  simp only [Interval.around, zpow_quarter]
  gcongr
  split_ifs <;> norm_num

/-- The upper end is half a place above it. -/
theorem high_around :
    ((Interval.around m e).high * 2 ^ (Interval.around m e).exponent : ℚ) = (m + 1 / 2) * 2 ^ e := by
  simp only [Interval.around, zpow_quarter]
  push_cast
  ring

/-- The nearest double, if the place of its last digit is known and no overflow follows. -/
theorem nearestBits_eq_of_exponent {num den r : Nat} {E : Int} (hnum : 0 < num)
    (hE : max (leadingExponent num den - 52) (-1074) = E)
    (hr : roundHalfEven (scaleDown num den E).1 (scaleDown num den E).2 = r)
    (hlt : (E + 1074).toNat * twoTo 52 + r < 2047 * twoTo 52) :
    nearestBits num den = (E + 1074).toNat * twoTo 52 + r := by
  unfold nearestBits
  rw [if_neg hnum.ne', hE]
  simp only [hr]
  exact Nat.min_eq_left hlt.le

/-- Just below a power of two that is no least double, the nearest double is that power: the quotient
rounds up to it at the exponent before, and carries. -/
theorem nearestBits_below_power {num den : Nat} (hden : 0 < den) (hleast : -1074 < e)
    (hgreatest : e ≤ 971) (hlow : (2 ^ 52 - 1 / 4 : ℚ) * 2 ^ e ≤ (num : ℚ) / den)
    (hhigh : (num : ℚ) / den < 2 ^ (e + 52)) :
    nearestBits num den = magnitude (2 ^ 52) e := by
  have htwo : (0 : ℚ) < 2 ^ e := by positivity
  have hnum : 0 < num := by
    refine Nat.pos_of_ne_zero ?_
    rintro rfl
    rw [Nat.cast_zero, zero_div] at hlow
    linarith
  have hhalf : (2 : ℚ) ^ (e - 1) = 2 ^ e / 2 := by rw [zpow_sub₀ (by norm_num)]; norm_num
  have hleading : leadingExponent num den = e + 51 := by
    refine leadingExponent_eq hnum hden (le_trans ?_ hlow) (by rwa [add_assoc])
    rw [zpow_add₀ (by norm_num)]
    norm_num
    linarith
  have hround : roundHalfEven (scaleDown num den (e - 1)).1 (scaleDown num den (e - 1)).2 = 2 ^ 53 := by
    rw [zpow_add₀ (by norm_num)] at hhigh
    norm_num at hhigh
    refine roundHalfEven_scaleDown hden ?_ ?_ (by norm_num)
    · rw [hhalf]; push_cast; linarith
    · rw [hhalf]; push_cast; linarith
  have hcarry : (e - 1 + 1074).toNat * twoTo 52 + 2 ^ 53 = magnitude (2 ^ 52) e := by
    change (e - 1 + 1074).toNat * 2 ^ 52 + 2 ^ 53 = (e + 1074).toNat * 2 ^ 52 + 2 ^ 52
    omega
  rw [nearestBits_eq_of_exponent hnum (by omega) hround]
  · exact hcarry
  · rw [hcarry]
    exact Representable.magnitude_lt ⟨hleast.le, hgreatest, by norm_num, .inr le_rfl⟩

/-- Every number of the interval around a double is rounded to that double. -/
theorem nearestBits_eq_magnitude {num den : Nat} (h : Representable m e) (hm : 0 < m)
    (hden : 0 < den) (hv : (Interval.around m e).Mem ((num : ℚ) / den)) :
    nearestBits num den = magnitude m e := by
  have htwo : (0 : ℚ) < 2 ^ e := by positivity
  have hlow := le_trans (low_around hm) hv.low
  have hhigh := high_around ▸ hv.high
  by_cases hbelow : -1074 < e ∧ (num : ℚ) / den < 2 ^ (e + 52)
  · obtain ⟨hleast, hbelow⟩ := hbelow
    obtain rfl : m = 2 ^ 52 := by
      have : (m - 1 / 2 : ℚ) < 2 ^ (52 : Int) := by
        rw [zpow_add₀ (by norm_num), mul_comm] at hbelow
        exact lt_of_mul_lt_mul_right (lt_of_le_of_lt hlow hbelow) htwo.le
      have : (m : ℚ) < (2 ^ 52 + 1 : ℕ) := by push_cast; norm_num at this; linarith
      have := Nat.cast_lt.mp this
      have := h.leading
      omega
    refine nearestBits_below_power hden hleast h.greatest (le_trans (le_of_eq ?_) hv.low) hbelow
    rw [cast_low_around hm, if_pos ⟨rfl, hleast⟩]
    simp only [Interval.around, zpow_quarter]
    push_cast
    ring
  have hnum : 0 < num := by
    have hm1 : (1 : ℚ) ≤ m := by exact_mod_cast hm
    refine Nat.pos_of_ne_zero ?_
    rintro rfl
    rw [Nat.cast_zero, zero_div] at hlow
    nlinarith
  have hinner : m % 2 = 1 → (m - 1 / 2 : ℚ) * 2 ^ e < (num : ℚ) / den ∧
      (num : ℚ) / den < (m + 1 / 2 : ℚ) * 2 ^ e := by
    intro hodd
    obtain ⟨h1, h2⟩ := hv.inner (by simp [Interval.around, hodd])
    exact ⟨lt_of_le_of_lt (low_around hm) h1, high_around ▸ h2⟩
  have htop : (num : ℚ) / den < 2 ^ (e + 52 + 1) := by
    have hm53 : (m + 1 : ℚ) ≤ 2 ^ (53 : Int) := by exact_mod_cast h.mantissa
    calc (num : ℚ) / den ≤ (m + 1 / 2) * 2 ^ e := hhigh
      _ < 2 ^ (53 : Int) * 2 ^ e := by gcongr; linarith
      _ = 2 ^ (e + 52 + 1) := by rw [← zpow_add₀ (by norm_num)]; congr 1; omega
  have hexponent : max (leadingExponent num den - 52) (-1074) = e := by
    rcases h.least.eq_or_lt with heq | hlt
    · have := (leadingExponent_spec hnum hden).1.trans_lt htop
      have := (zpow_lt_zpow_iff_right₀ (by norm_num : (1 : ℚ) < 2)).mp this
      omega
    · have hbottom : (2 : ℚ) ^ (e + 52) ≤ (num : ℚ) / den := not_lt.mp fun h => hbelow ⟨hlt, h⟩
      rw [leadingExponent_eq hnum hden hbottom htop]
      omega
  exact nearestBits_eq_of_exponent hnum hexponent (roundHalfEven_scaleDown hden hlow hhigh hinner)
    h.magnitude_lt

end

end ParLang.Number
