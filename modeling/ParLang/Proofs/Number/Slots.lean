import Mathlib.Algebra.Order.Floor.Semifield
import Mathlib.Data.Rat.Floor
import Mathlib.Tactic.Linarith
import Mathlib.Tactic.Positivity
import Mathlib.Algebra.Order.Field.Power
import ParLang.Number.Whole
import ParLang.Proofs.Number.Rounding

/-!
# Numbers as places

The exact value of a double, and which of them stand for a place in something of a given length. A
number between `-1` and `0` stands for the first place, if there is one.
-/

namespace ParLang.Number

/-- The exact value of a double. The infinities and the non-number have none. -/
def value? (x : Float) : Option ℚ :=
  match decode x with
  | .finite negative mantissa exponent =>
    some ((if negative then -1 else 1) * (mantissa * 2 ^ exponent))
  | _ => none

/-- The number truncated toward zero. -/
def truncate (q : ℚ) : ℤ :=
  if 0 ≤ q then ⌊q⌋ else ⌈q⌉

/-- A number that is not negative is truncated downwards. -/
theorem truncate_of_nonneg {a : ℚ} (ha : 0 ≤ a) : truncate a = ⌊a⌋₊ := by
  rw [truncate, if_pos ha, Int.natCast_floor_eq_floor ha]

/-- A negative number above minus one is truncated to zero, so it is a place of every array. -/
theorem truncate_neg_of_lt_one {a : ℚ} (ha : 0 ≤ a) (hlt : a < 1) : truncate (-a) = 0 := by
  rw [truncate]
  split
  case isTrue h => rw [show a = 0 by linarith, neg_zero, Int.floor_zero]
  case isFalse =>
    rw [Int.ceil_neg, neg_eq_zero, Int.floor_eq_zero_iff]
    exact ⟨ha, hlt⟩

/-- The whole part is that of the exact number. -/
theorem wholePart_eq_floor (m : Nat) (e : Int) : wholePart m e = ⌊(m * 2 ^ e : ℚ)⌋₊ := by
  unfold wholePart
  split
  case isTrue he =>
    obtain ⟨k, rfl⟩ : ∃ k : Nat, e = -k := ⟨(-e).toNat, by omega⟩
    rw [neg_neg, Int.toNat_natCast, zpow_neg, zpow_natCast, ← div_eq_mul_inv]
    have hfloor := Nat.floor_div_eq_div (K := ℚ) m (2 ^ k)
    push_cast at hfloor
    exact hfloor.symm
  case isFalse he =>
    obtain ⟨k, rfl⟩ : ∃ k : Nat, e = k := ⟨e.toNat, by omega⟩
    rw [Int.toNat_natCast, zpow_natCast]
    have hfloor := Nat.floor_natCast (R := ℚ) (m * 2 ^ k)
    push_cast at hfloor
    exact hfloor.symm

/-! ## Lengths as doubles -/

/-- Rounding does not exceed a whole number that the fraction does not exceed. -/
theorem roundHalfEven_le {n d k : Nat} (hd : 0 < d) (h : n ≤ d * k) : roundHalfEven n d ≤ k := by
  have hq : n / d ≤ k := Nat.div_le_of_le_mul h
  have hup : n % d ≠ 0 → n / d + 1 ≤ k := by
    intro hr
    by_contra hlt
    obtain rfl : n / d = k := by omega
    have := Nat.div_add_mod n d
    omega
  unfold roundHalfEven
  dsimp only
  split_ifs <;> omega

/-- Rounding does not fall below a whole number that the fraction does not fall below. -/
theorem le_roundHalfEven {n d k : Nat} (hd : 0 < d) (h : d * k ≤ n) : k ≤ roundHalfEven n d := by
  have hq : k ≤ n / d := (Nat.le_div_iff_mul_le hd).mpr (by rwa [Nat.mul_comm])
  unfold roundHalfEven
  dsimp only
  split_ifs <;> omega

/-- A length rounded to a multiple of `2 ^ E`. -/
def roundedAt (n : Nat) (E : Int) : Nat :=
  roundHalfEven (scaleDown n 1 E).1 (scaleDown n 1 E).2

/-- So a length that is rounded at a place does not exceed a multiple of it that the length does not. -/
theorem roundedAt_le {n k : Nat} {E : Int} (h : (n : ℚ) ≤ k * 2 ^ E) : roundedAt n E ≤ k := by
  obtain ⟨hpos, hval⟩ := scaleDown_spec n Nat.one_pos E
  refine roundHalfEven_le hpos ?_
  have hd : (0 : ℚ) < (scaleDown n 1 E).2 := by exact_mod_cast hpos
  rw [Nat.cast_one, div_one] at hval
  have hle : ((scaleDown n 1 E).1 : ℚ) / (scaleDown n 1 E).2 ≤ k := by
    rw [hval, div_le_iff₀ (by positivity)]
    exact h
  rw [div_le_iff₀ hd, mul_comm] at hle
  exact_mod_cast hle

/-- Nor does it fall below one. -/
theorem le_roundedAt {n k : Nat} {E : Int} (h : (k : ℚ) * 2 ^ E ≤ n) : k ≤ roundedAt n E := by
  obtain ⟨hpos, hval⟩ := scaleDown_spec n Nat.one_pos E
  refine le_roundHalfEven hpos ?_
  have hd : (0 : ℚ) < (scaleDown n 1 E).2 := by exact_mod_cast hpos
  rw [Nat.cast_one, div_one] at hval
  have hle : (k : ℚ) ≤ (scaleDown n 1 E).1 / (scaleDown n 1 E).2 := by
    rw [hval, le_div_iff₀ (by positivity)]
    exact h
  rw [le_div_iff₀ hd, mul_comm] at hle
  exact_mod_cast hle

/-- Nothing is below the length zero. -/
theorem isBelow_zero (whole : Nat) : isBelow whole 0 = false := by
  have hdecode : decodeBits (nearestBits 0 1) = .finite false 0 (-1074) := by decide +kernel
  simp only [isBelow, hdecode, wholePart_eq_floor, Nat.cast_zero, zero_mul, Nat.floor_zero, Nat.not_lt_zero,
    decide_false]

/-- The place of the last binary digit of the double nearest to a positive length. -/
def lastPlace (n : Nat) : Int :=
  n.log2 - 52

section
variable {n : Nat} (hn : 0 < n)
include hn

/-- The last place is 52 digits behind the first. -/
theorem two_zpow_lastPlace : (2 ^ 52 : ℚ) * 2 ^ lastPlace n ≤ n ∧ (n : ℚ) < 2 ^ 53 * 2 ^ lastPlace n := by
  obtain ⟨hlow, hhigh⟩ := log2_spec hn
  have h52 : (2 ^ 52 : ℚ) * 2 ^ lastPlace n = 2 ^ (n.log2 : Int) := by
    rw [← zpow_natCast, ← zpow_add₀ (by norm_num)]
    exact congrArg _ (by simp only [lastPlace]; push_cast; ring)
  have h53 : (2 ^ 53 : ℚ) * 2 ^ lastPlace n = 2 ^ (n.log2 + 1 : Int) := by
    rw [← zpow_natCast, ← zpow_add₀ (by norm_num)]
    exact congrArg _ (by simp only [lastPlace]; push_cast; ring)
  rw [h52, h53]
  exact ⟨hlow, hhigh⟩

/-- The rounded length has 53 binary digits, or is the next power of two. -/
theorem roundedAt_lastPlace : 2 ^ 52 ≤ roundedAt n (lastPlace n) ∧ roundedAt n (lastPlace n) ≤ 2 ^ 53 := by
  obtain ⟨hlow, hhigh⟩ := two_zpow_lastPlace hn
  constructor
  · exact le_roundedAt (by exact_mod_cast hlow)
  · exact roundedAt_le (by exact_mod_cast hhigh.le)

/-- The double nearest to a length, by the last place of the length. -/
theorem nearestBits_length : nearestBits n 1 =
    min ((lastPlace n + 1074).toNat * twoTo 52 + roundedAt n (lastPlace n)) (2047 * twoTo 52) := by
  have hleading : leadingExponent n 1 = n.log2 := by
    obtain ⟨hlow, hhigh⟩ := log2_spec hn
    exact leadingExponent_eq hn Nat.one_pos (by simpa using hlow) (by simpa using hhigh)
  unfold nearestBits
  rw [if_neg hn.ne', hleading, max_eq_left (by omega)]
  rfl

/-- The double nearest to a length is the rounded length. -/
theorem decodeBits_length
    (hlt : (lastPlace n + 1074).toNat * twoTo 52 + roundedAt n (lastPlace n) < 2047 * twoTo 52) :
    ∃ m e, decodeBits (nearestBits n 1) = .finite false m e ∧
      (m * 2 ^ e : ℚ) = roundedAt n (lastPlace n) * 2 ^ lastPlace n := by
  obtain ⟨m, e, hdecode, hme, hbits⟩ := decodeBits_finite false hlt
  refine ⟨m, e, ?_, ?_⟩
  · rwa [nearestBits_length hn, min_eq_left hlt.le, ← Nat.add_zero (_ + _)]
  · obtain ⟨hlow, hhigh⟩ := roundedAt_lastPlace hn
    have hplace : -52 ≤ lastPlace n := by simp only [lastPlace]; omega
    generalize roundedAt n (lastPlace n) = r at hbits hlow hhigh
    generalize lastPlace n = E at hbits hplace
    obtain ⟨hleast, -, hm, hleading⟩ := hme
    change (e + 1074).toNat * 2 ^ 52 + m = (E + 1074).toNat * 2 ^ 52 + r at hbits
    -- Only the next power of two is at another exponent.
    rcases hhigh.eq_or_lt with rfl | hhigh
    · obtain ⟨rfl, rfl⟩ : e = E + 1 ∧ m = 2 ^ 52 := by omega
      rw [zpow_add₀ (by norm_num)]
      push_cast
      ring
    · obtain ⟨rfl, rfl⟩ : e = E ∧ m = r := by omega
      rfl

/-- A length that is rounded past all doubles is at least a power of two past them. -/
theorem le_of_beyond
    (hbeyond : ¬(lastPlace n + 1074).toNat * twoTo 52 + roundedAt n (lastPlace n) < 2047 * twoTo 52) :
    (2 ^ 53 : ℚ) * 2 ^ (971 : Int) ≤ roundedAt n (lastPlace n) * 2 ^ lastPlace n := by
  obtain ⟨hlow, hhigh⟩ := roundedAt_lastPlace hn
  change ¬(lastPlace n + 1074).toNat * 2 ^ 52 + roundedAt n (lastPlace n) < 2047 * 2 ^ 52 at hbeyond
  generalize roundedAt n (lastPlace n) = r at hbeyond hlow hhigh ⊢
  generalize lastPlace n = E at hbeyond ⊢
  obtain ⟨top, htop⟩ : ∃ top : Int, top = 971 := ⟨_, rfl⟩
  rw [← htop]
  rcases le_or_gt (top + 1) E with hE | hE
  · have hr : (2 ^ 52 : ℚ) ≤ r := by exact_mod_cast hlow
    calc (2 ^ 53 : ℚ) * 2 ^ top = 2 ^ 52 * 2 ^ (top + 1) := by
          rw [zpow_add_one₀ (by norm_num)]
          ring
      _ ≤ r * 2 ^ E := by
          gcongr
          norm_num
  · obtain rfl : E = top := by omega
    have hr : 2 ^ 53 ≤ r := by omega
    have hr : (2 ^ 53 : ℚ) ≤ r := by exact_mod_cast hr
    gcongr

end

/-- Doubles are below a power of two. -/
theorem Representable.lt_top {m : Nat} {e : Int} (h : Representable m e) :
    (m * 2 ^ e : ℚ) < 2 ^ 53 * 2 ^ (971 : Int) := by
  have hm : (m : ℚ) < 2 ^ 53 := by exact_mod_cast h.mantissa
  have he : (2 : ℚ) ^ e ≤ 2 ^ (971 : Int) := zpow_le_zpow_right₀ (by norm_num) h.greatest
  calc (m : ℚ) * 2 ^ e ≤ m * 2 ^ (971 : Int) := mul_le_mul_of_nonneg_left he m.cast_nonneg
    _ < 2 ^ 53 * 2 ^ (971 : Int) := mul_lt_mul_of_pos_right hm (zpow_pos (by norm_num) _)

/-- **A whole double below the double nearest to a length is below the length.** Rounding does not take
the length past a double. -/
theorem lt_of_isBelow {m n : Nat} {e : Int} (h : Representable m e)
    (hbelow : isBelow (wholePart m e) n = true) : wholePart m e < n := by
  by_contra hle
  rw [not_lt] at hle
  rcases n.eq_zero_or_pos with rfl | hn
  · cases (isBelow_zero _).symm.trans hbelow
  obtain ⟨hlow, -⟩ := two_zpow_lastPlace hn
  have hwhole : (wholePart m e : ℚ) ≤ m * 2 ^ e := by
    rw [wholePart_eq_floor]
    exact Nat.floor_le (by positivity)
  have hnm : (n : ℚ) ≤ m * 2 ^ e := (Nat.cast_le.mpr hle).trans hwhole
  -- Some multiple of the last place lies between the length and the double.
  obtain ⟨k, hk, hkm⟩ : ∃ k : Nat, (n : ℚ) ≤ k * 2 ^ lastPlace n ∧
      (k : ℚ) * 2 ^ lastPlace n ≤ wholePart m e := by
    rcases le_or_gt (lastPlace n) 0 with hE | hE
    · obtain ⟨j, hj⟩ : ∃ j : Nat, lastPlace n = -j := ⟨(-lastPlace n).toNat, by omega⟩
      refine ⟨n * 2 ^ j, ?_, ?_⟩ <;> rw [hj, zpow_neg, zpow_natCast] <;> push_cast <;> field_simp
      · rfl
      · exact_mod_cast hle
    · have hEe : lastPlace n ≤ e := by
        have hm : (m : ℚ) < 2 ^ 53 := by exact_mod_cast h.mantissa
        have hlt : (2 ^ 52 : ℚ) * 2 ^ lastPlace n < 2 ^ 53 * 2 ^ e :=
          (hlow.trans hnm).trans_lt (mul_lt_mul_of_pos_right hm (by positivity))
        have hlt : (2 : ℚ) ^ lastPlace n < 2 ^ (e + 1) := by
          rw [zpow_add₀ (by norm_num)]
          linarith
        have := (zpow_lt_zpow_iff_right₀ (by norm_num : (1 : ℚ) < 2)).mp hlt
        omega
      obtain ⟨j, rfl⟩ : ∃ j : Nat, e = lastPlace n + j := ⟨(e - lastPlace n).toNat, by omega⟩
      have hmul : (m : ℚ) * 2 ^ (lastPlace n + j) = (m * 2 ^ j : ℕ) * 2 ^ lastPlace n := by
        rw [zpow_add₀ (by norm_num), zpow_natCast]
        push_cast
        ring
      refine ⟨m * 2 ^ j, hmul ▸ hnm, ?_⟩
      rw [wholePart, if_neg (by omega), ← hmul, show twoTo = fun n => 2 ^ n from rfl]
      obtain ⟨i, hi⟩ : ∃ i : Nat, lastPlace n + j = i := ⟨(lastPlace n + j).toNat, by omega⟩
      rw [hi, Int.toNat_natCast, zpow_natCast]
      push_cast
      rfl
  have hround : (roundedAt n (lastPlace n) : ℚ) * 2 ^ lastPlace n ≤ wholePart m e :=
    le_trans (mul_le_mul_of_nonneg_right (Nat.cast_le.mpr (roundedAt_le hk)) (by positivity)) hkm
  by_cases hlt : (lastPlace n + 1074).toNat * twoTo 52 + roundedAt n (lastPlace n) < 2047 * twoTo 52
  · obtain ⟨m', e', hdecode, hvalue⟩ := decodeBits_length hn hlt
    simp only [isBelow, hdecode, wholePart_eq_floor m' e', hvalue, decide_eq_true_eq] at hbelow
    exact absurd ((Nat.floor_le_floor hround).trans (Nat.floor_natCast _).le) (not_le.mpr hbelow)
  · exact absurd ((le_of_beyond hn hlt).trans (hround.trans hwhole)) (not_le.mpr h.lt_top)

/-- Up to `2 ^ 53` every length is a double. -/
theorem isBelow_iff_lt {n : Nat} (hn : n ≤ 2 ^ 53) (whole : Nat) :
    isBelow whole n = true ↔ whole < n := by
  rcases n.eq_zero_or_pos with rfl | hpos
  · simp [isBelow_zero]
  have hlog : n.log2 ≤ 53 := by
    by_contra h
    have := Nat.log2_self_le hpos.ne'
    have := Nat.pow_le_pow_right (n := 2) (by norm_num) (show 54 ≤ n.log2 by omega)
    omega
  -- The last place is that of a whole digit only for `2 ^ 53` itself.
  obtain ⟨k, hk⟩ : ∃ k : Nat, (n : ℚ) = k * 2 ^ lastPlace n := by
    rcases Nat.lt_or_ge n.log2 53 with hlt | hge
    · obtain ⟨j, hj⟩ : ∃ j : Nat, lastPlace n = -j := ⟨52 - n.log2, by simp only [lastPlace]; omega⟩
      refine ⟨n * 2 ^ j, ?_⟩
      rw [hj, zpow_neg, zpow_natCast]
      push_cast
      field_simp
    · have hlog : n.log2 = 53 := by omega
      have := hlog ▸ Nat.log2_self_le hpos.ne'
      obtain rfl : n = 2 ^ 53 := by omega
      exact ⟨2 ^ 52, by rw [lastPlace, hlog]; norm_num⟩
  have hround : roundedAt n (lastPlace n) = k := le_antisymm (roundedAt_le hk.le) (le_roundedAt hk.ge)
  obtain ⟨m, e, hdecode, hvalue⟩ := decodeBits_length hpos (by
    obtain ⟨-, hr⟩ := roundedAt_lastPlace hpos
    change (lastPlace n + 1074).toNat * 2 ^ 52 + roundedAt n (lastPlace n) < 2047 * 2 ^ 52
    have : lastPlace n ≤ 1 := by simp only [lastPlace]; omega
    omega)
  rw [hround, ← hk] at hvalue
  simp [isBelow, hdecode, wholePart_eq_floor, hvalue]

/-! ## Places -/

/-- A place is one of the array, however long that is. -/
theorem lt_of_slot? {x : Float} {n i : Nat} (h : slot? x n = some i) : i < n := by
  unfold slot? at h
  rcases decode_cases x with ⟨hx, -⟩ | ⟨_, hx, -⟩ | ⟨negative, m, e, hx, hme, -⟩
  · rw [hx] at h
    cases h
  · rw [hx] at h
    cases h
  · rw [hx] at h
    dsimp only at h
    split_ifs at h with _ hlt
    exact Option.some.inj h ▸ lt_of_isBelow hme hlt

/-- **The places of numbers.** -/
theorem slot?_eq_some_iff {x : Float} {n i : Nat} (hn : n ≤ 2 ^ 53) :
    slot? x n = some i ↔ 0 < n ∧ ∃ q, value? x = some q ∧ -1 < q ∧ q < n ∧ (i : ℤ) = truncate q := by
  unfold slot? value?
  cases decode x with
  | nan | infinite => simp
  | finite negative m e =>
    have ha : (0 : ℚ) ≤ m * 2 ^ e := by positivity
    simp only [isBelow_iff_lt hn, wholePart_eq_floor]
    generalize (m * 2 ^ e : ℚ) = a at ha
    cases negative with
    | false =>
      have hbound : ⌊a⌋₊ < n ↔ a < n := Nat.floor_lt ha
      simp only [Bool.false_and, Bool.false_eq_true, if_false, one_mul, Option.some.injEq, exists_eq_left',
        truncate_of_nonneg ha, Nat.cast_inj, Option.ite_none_right_eq_some, hbound]
      constructor
      · rintro ⟨hlt, rfl⟩
        have hn : (0 : ℚ) < n := ha.trans_lt hlt
        exact ⟨by exact_mod_cast hn, by linarith, hlt, rfl⟩
      · rintro ⟨-, -, hlt, rfl⟩
        exact ⟨hlt, rfl⟩
    | true =>
      simp only [Bool.true_and, if_true, neg_one_mul, Option.some.injEq, exists_eq_left', neg_lt_neg_iff]
      rcases lt_or_ge a 1 with hlt | hge
      · rw [Nat.floor_eq_zero.mpr hlt, truncate_neg_of_lt_one ha hlt]
        simp only [bne_self_eq_false, Bool.false_eq_true, if_false, Option.ite_none_right_eq_some,
          Option.some.injEq, Nat.cast_eq_zero]
        constructor
        · rintro ⟨hn, rfl⟩
          have hpos : (0 : ℚ) < n := by exact_mod_cast hn
          exact ⟨hn, hlt, by linarith, rfl⟩
        · rintro ⟨hn, -, -, rfl⟩
          exact ⟨hn, rfl⟩
      · have hwhole : ⌊a⌋₊ ≠ 0 := fun h => absurd (Nat.floor_eq_zero.mp h) (not_lt.mpr hge)
        rw [if_pos (bne_iff_ne.mpr hwhole)]
        exact iff_of_false (by simp) fun h => absurd h.2.1 (not_lt.mpr hge)

end ParLang.Number
