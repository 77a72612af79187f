import ParLang.Proofs.Number.Rounding

/-!
# The shortest decimal

The decimal that `shortest` gives is in the interval around its double, so it is rounded to that
double. What is to be shown is that the search for a multiple of a power of ten ends in time: a power
that is at most a quarter of the last place has a multiple in the interval, and the twentieth power is.
-/

namespace ParLang.Number

/-- The ratio of a power of ten to a power of two, as a fraction. -/
theorem tenOverTwo_spec (p q : Int) : 0 < (tenOverTwo p q).1 ∧ 0 < (tenOverTwo p q).2 ∧
    ((tenOverTwo p q).1 : ℚ) * 2 ^ q = (tenOverTwo p q).2 * 10 ^ p := by
  have hsplit (b : ℚ) (hb : 0 < b) (k : Int) : b ^ k = b ^ k.toNat / b ^ (-k).toNat := by
    rw [← zpow_natCast, ← zpow_natCast, ← zpow_sub₀ hb.ne']
    congr 1
    omega
  refine ⟨by simp [tenOverTwo, tenTo, twoTo], by simp [tenOverTwo, tenTo, twoTo], ?_⟩
  simp only [tenOverTwo, tenTo, twoTo, Nat.pow_eq]
  push_cast
  rw [hsplit 2 (by norm_num) q, hsplit 10 (by norm_num) p]
  field_simp

/-- The fraction `30103 / 100000` is close enough to the logarithm of two for the exponents of doubles:
ten to that part of `k` is at most a few binary places above two to the `k`. -/
theorem ten_zpow_le {j k : Int} (h : 100000 * j ≤ 30103 * k) (hlow : -1100 ≤ k)
    (hhigh : k ≤ 1024) : (10 : ℚ) ^ j ≤ 2 ^ (k + 4) := by
  rcases le_total 0 j with hj | hj
  · obtain ⟨n, rfl⟩ := Int.eq_ofNat_of_zero_le hj
    refine le_of_pow_le_pow_left₀ (n := 3) (by norm_num) (by positivity) ?_
    calc ((10 : ℚ) ^ (n : Int)) ^ 3 = (10 ^ 3) ^ n := by rw [zpow_natCast, pow_right_comm]
      _ ≤ (2 ^ 10) ^ n := by gcongr; norm_num
      _ = 2 ^ (10 * n : Int) := by rw [← pow_mul, ← zpow_natCast]; push_cast; rfl
      _ ≤ 2 ^ ((k + 4) * (3 : Nat) : Int) := zpow_le_zpow_right₀ (by norm_num) (by omega)
      _ = (2 ^ (k + 4)) ^ 3 := by rw [zpow_mul, zpow_natCast]
  · obtain ⟨n, hn⟩ := Int.eq_ofNat_of_zero_le (neg_nonneg.mpr hj)
    obtain rfl : j = -n := by omega
    refine le_of_pow_le_pow_left₀ (n := 28) (by norm_num) (by positivity) ?_
    calc ((10 : ℚ) ^ (-n : Int)) ^ 28 = ((10 ^ 28) ^ n)⁻¹ := by
          rw [zpow_neg, zpow_natCast, inv_pow, pow_right_comm]
      _ ≤ ((2 ^ 93) ^ n)⁻¹ := by gcongr; norm_num
      _ = 2 ^ (-(93 * n) : Int) := by rw [← pow_mul, zpow_neg, ← zpow_natCast]; push_cast; rfl
      _ ≤ 2 ^ ((k + 4) * (28 : Nat) : Int) := zpow_le_zpow_right₀ (by norm_num) (by omega)
      _ = (2 ^ (k + 4)) ^ 28 := by rw [zpow_mul, zpow_natCast]

/-- The last power of ten that the search tries is at most a quarter of the last place. -/
theorem ten_zpow_powerAbove_le {m : Nat} {e : Int} (h : Representable m e) :
    (10 : ℚ) ^ (powerAbove m e - 19) ≤ 2 ^ (e - 2) := by
  have hlog : m.log2 ≤ 52 := by
    rcases Nat.eq_zero_or_pos m with rfl | hm
    · decide
    · exact Nat.le_of_lt_succ ((Nat.log2_lt hm.ne').mpr h.mantissa)
  have hten : (10 : ℚ) ^ (powerAbove m e - 1) ≤ 2 ^ (e + 53 + 4) := by
    refine (zpow_le_zpow_right₀ (by norm_num) ?_).trans
      (ten_zpow_le (j := (e + 53) * 30103 / 100000) (by omega) (by have := h.least; omega)
        (by have := h.greatest; omega))
    unfold powerAbove
    omega
  calc (10 : ℚ) ^ (powerAbove m e - 19) = 10 ^ (powerAbove m e - 1) / 10 ^ (18 : Int) := by
        rw [← zpow_sub₀ (by norm_num)]; congr 1; omega
    _ ≤ 2 ^ (e + 53 + 4) / 2 ^ (59 : Int) := by gcongr; norm_num
    _ = 2 ^ (e - 2) := by rw [← zpow_sub₀ (by norm_num)]; congr 1; omega

namespace Interval

variable {i : Interval} {p : Int} {d : Nat}

/-- A multiple of a power of ten, measured in a power of two. -/
theorem multiple_eq (q p : Int) (d : Nat) :
    (d : ℚ) * 10 ^ p = d * (tenOverTwo p q).1 / (tenOverTwo p q).2 * 2 ^ q := by
  obtain ⟨-, htwo, hratio⟩ := tenOverTwo_spec p q
  have htwo : ((tenOverTwo p q).2 : ℚ) ≠ 0 := by exact_mod_cast htwo.ne'
  rw [div_mul_eq_mul_div, mul_assoc, hratio]
  field_simp

/-- The test that `nearestMultiple?` makes of the multiples next to the value. -/
def inside (i : Interval) (p : Int) (d : Nat) : Bool :=
  let multiple := d * (tenOverTwo p i.exponent).1
  let two := (tenOverTwo p i.exponent).2
  if i.closed then i.low * two ≤ multiple && multiple ≤ i.high * two
  else i.low * two < multiple && multiple < i.high * two

/-- The greatest multiple that is not above the value. -/
def below (i : Interval) (p : Int) : Nat :=
  i.value * (tenOverTwo p i.exponent).2 / (tenOverTwo p i.exponent).1

/-- The choice between the multiples next to the value. -/
def neighbour? (i : Interval) (p : Int) : Option Nat :=
  match decide (0 < i.below p) && i.inside p (i.below p), i.inside p (i.below p + 1) with
  | true, true =>
    some (if i.value * (tenOverTwo p i.exponent).2 - i.below p * (tenOverTwo p i.exponent).1 <
        (i.below p + 1) * (tenOverTwo p i.exponent).1 - i.value * (tenOverTwo p i.exponent).2
      then i.below p else i.below p + 1)
  | true, false => some (i.below p)
  | false, true => some (i.below p + 1)
  | false, false => none

/-- The multiple that is found lies in the interval, and if none is found then the next one above is not
inside. -/
theorem nearestMultiple?_cases (i : Interval) (p : Int) :
    i.nearestMultiple? p = none ∧ i.inside p (i.below p + 1) = false ∨
      ∃ d, i.nearestMultiple? p = some d ∧ 0 < d ∧ i.inside p d = true := by
  have heq : i.nearestMultiple? p = i.neighbour? p := rfl
  rw [heq, neighbour?]
  split
  case h_1 hbelow habove =>
    simp only [Bool.and_eq_true, decide_eq_true_eq] at hbelow
    refine .inr ⟨_, rfl, ?_, ?_⟩
    · split <;> omega
    · split
      · exact hbelow.2
      · exact habove
  case h_2 hbelow _ =>
    simp only [Bool.and_eq_true, decide_eq_true_eq] at hbelow
    exact .inr ⟨_, rfl, hbelow⟩
  case h_3 _ habove => exact .inr ⟨_, rfl, Nat.succ_pos _, habove⟩
  case h_4 _ habove => exact .inl ⟨rfl, habove⟩

/-- What is found to be inside by whole numbers lies in the interval. -/
theorem mem_of_inside (h : i.inside p d = true) : i.Mem (d * 10 ^ p) := by
  have htwo : (0 : ℚ) < (tenOverTwo p i.exponent).2 := by
    exact_mod_cast (tenOverTwo_spec p i.exponent).2.1
  rw [multiple_eq i.exponent]
  unfold inside at h
  generalize tenOverTwo p i.exponent = t at h htwo ⊢
  constructor
  · gcongr
    rw [le_div_iff₀ htwo]
    split at h <;> rw [Bool.and_eq_true, decide_eq_true_eq, decide_eq_true_eq] at h <;>
      exact_mod_cast by omega
  · gcongr
    rw [div_le_iff₀ htwo]
    split at h <;> rw [Bool.and_eq_true, decide_eq_true_eq, decide_eq_true_eq] at h <;>
      exact_mod_cast by omega
  · intro hopen
    rw [hopen] at h
    simp only [Bool.false_eq_true, if_false, Bool.and_eq_true, decide_eq_true_eq] at h
    constructor
    · gcongr
      rw [lt_div_iff₀ htwo]
      exact_mod_cast h.1
    · gcongr
      rw [div_lt_iff₀ htwo]
      exact_mod_cast h.2

/-- An interval that reaches a power of ten above its value holds a multiple of it. -/
theorem inside_above (hlow : i.low < i.value) (hhigh : i.value + 2 ≤ i.high)
    (hp : (10 : ℚ) ^ p ≤ 2 ^ i.exponent) : i.inside p (i.below p + 1) = true := by
  obtain ⟨hten, htwo, hratio⟩ := tenOverTwo_spec p i.exponent
  have hle : (tenOverTwo p i.exponent).1 ≤ (tenOverTwo p i.exponent).2 := by
    have : ((tenOverTwo p i.exponent).1 : ℚ) * 2 ^ i.exponent ≤
        (tenOverTwo p i.exponent).2 * 2 ^ i.exponent := by
      rw [hratio]
      gcongr
    exact_mod_cast le_of_mul_le_mul_right this (by positivity)
  unfold inside below
  generalize tenOverTwo p i.exponent = t at *
  simp only
  have h1 : i.value * t.2 < (i.value * t.2 / t.1 + 1) * t.1 := by
    rw [Nat.mul_comm _ t.1]
    exact Nat.lt_mul_div_succ (i.value * t.2) hten
  have h2 := Nat.div_mul_le_self (i.value * t.2) t.1
  have h3 : (i.value * t.2 / t.1 + 1) * t.1 = i.value * t.2 / t.1 * t.1 + t.1 := Nat.succ_mul _ _
  have h4 : i.low * t.2 < i.value * t.2 := Nat.mul_lt_mul_of_pos_right hlow htwo
  have h5 : (i.value + 2) * t.2 ≤ i.high * t.2 := Nat.mul_le_mul_right _ hhigh
  rw [Nat.add_mul] at h5
  split
  · simp only [Bool.and_eq_true, decide_eq_true_eq]; omega
  · simp only [Bool.and_eq_true, decide_eq_true_eq]; omega

/-- A search that goes down to a power of ten small enough finds a decimal in the interval. -/
theorem coarsest?_mem (hlow : i.low < i.value) (hhigh : i.value + 2 ≤ i.high) :
    ∀ {n : Nat} {p : Int}, (10 : ℚ) ^ (p - n) ≤ 2 ^ i.exponent →
      ∃ d, i.coarsest? (n + 1) p = some d ∧ 0 < d.digits ∧ i.Mem (d.digits * 10 ^ d.exponent)
  | n, p, hp => by
    rcases i.nearestMultiple?_cases p with ⟨hnone, habove⟩ | ⟨d, hsome, hd, hinside⟩
    · cases n with
      | zero =>
        rw [inside_above hlow hhigh (by simpa using hp)] at habove
        contradiction
      | succ n =>
        simp only [coarsest?, hnone]
        exact coarsest?_mem hlow hhigh (by push_cast at hp; rwa [sub_sub, add_comm (1 : Int)])
    · exact ⟨⟨d, p⟩, by rw [coarsest?, hsome], hd, mem_of_inside hinside⟩

end Interval

/-- The shortest decimal lies in the interval around the number, and so it is read back as it. -/
theorem shortest_mem {m : Nat} {e : Int} (h : Representable m e) (hm : 0 < m) :
    0 < (shortest m e).digits ∧
      (Interval.around m e).Mem ((shortest m e).digits * 10 ^ (shortest m e).exponent) := by
  have hlow : (Interval.around m e).low < (Interval.around m e).value := by
    simp only [Interval.around]
    split <;> omega
  obtain ⟨d, hd, hpos, hmem⟩ :=
    Interval.coarsest?_mem (n := 19) hlow le_rfl (ten_zpow_powerAbove_le h)
  unfold shortest
  rw [hd]
  exact ⟨hpos, hmem⟩

end ParLang.Number
