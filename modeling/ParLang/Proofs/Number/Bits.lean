import Mathlib
import ParLang.Number.Binary

/-!
# The bits of doubles

A double is kept as its bits, and making one from bits unpacks and packs them again. This changes only
the bits of a non-number, of which there is one, so `decode` reads back what `ofMagnitude` was given: a
sign, and a mantissa and an exponent in the range of doubles, whose `magnitude` are the bits below it.
Every double is the non-number, an infinity or made in this way (`decode_cases`).

What is known of packing and of comparing doubles comes from Batteries, and no part of Mathlib but the
whole passes that on. Modules that need it import this one.
-/

namespace ParLang.Number

open Float.Model Float.Model.UnpackedFloat

/-! ## Bits -/

/-- Only the bits of a non-number change. -/
theorem toBits_ofBits {b : UInt64} (hb : @isNaNBits Format.binary64 b.toBitVec = false) :
    (Float.ofBits b).toBits = b := by
  have hpack : UnpackedFloat.pack Format.binary64 (UnpackedFloat.unpack Format.binary64 b.toBitVec) =
      b.toBitVec := by
    rw [pack_unpack, if_neg (by simp [hb])]
  exact UInt64.toBitVec_inj.mp hpack

/-- The bits of a double are its magnitude, with the sign in front. -/
theorem toBits_ofMagnitude {negative : Bool} {n : Nat} (hn : n ≤ 2047 * twoTo 52) :
    (ofMagnitude negative n).toBits.toNat = n + if negative then twoTo 63 else 0 := by
  change n ≤ 2047 * 2 ^ 52 at hn
  have hsign : (if negative then twoTo 63 else 0) = 0 ∨ (if negative then twoTo 63 else 0) = 2 ^ 63 := by
    cases negative
    · exact .inl rfl
    · exact .inr rfl
  unfold ofMagnitude
  generalize (if negative then twoTo 63 else 0) = sign at hsign ⊢
  have hbits : (UInt64.ofNat (n + sign)).toNat = n + sign := by
    rw [UInt64.toNat_ofNat']
    omega
  rw [toBits_ofBits, hbits]
  rw [isNaNBits, decide_eq_false_iff_not, unpackExponent_def, unpackMantissa_def]
  rintro ⟨hfield, hfraction⟩
  have hfield := congrArg BitVec.toNat hfield
  apply hfraction
  apply BitVec.eq_of_toNat_eq
  rw [BitVec.extractLsb'_toNat, UInt64.toNat_toBitVec, hbits, Nat.shiftRight_eq_div_pow] at hfield ⊢
  change (n + sign) / 2 ^ 52 % 2 ^ 11 = 2047 at hfield
  change (n + sign) / 2 ^ 0 % 2 ^ 52 = 0
  omega

/-- A double is made of its own bits. -/
theorem eq_ofMagnitude {x : Float} {negative : Bool} {n : Nat}
    (h : x.toBits.toNat = n + if negative then twoTo 63 else 0) : x = ofMagnitude negative n := by
  rw [ofMagnitude, ← h, UInt64.ofNat_toNat, Float.ofBits_toBits]

/-- Doubles of one sign are different if their magnitudes are. -/
theorem ofMagnitude_injective {negative : Bool} {n n' : Nat} (hn : n ≤ 2047 * twoTo 52)
    (hn' : n' ≤ 2047 * twoTo 52) (h : ofMagnitude negative n = ofMagnitude negative n') : n = n' := by
  have hbits := congrArg (fun x : Float => x.toBits.toNat) h
  simp only [toBits_ofMagnitude hn, toBits_ofMagnitude hn'] at hbits
  exact Nat.add_right_cancel hbits

/-! ## Decoding -/

/-- The mantissa and the exponent of a finite double. Only at the least exponent can the leading one
be missing. -/
structure Representable (m : Nat) (e : Int) : Prop where
  least : -1074 ≤ e
  greatest : e ≤ 971
  mantissa : m < 2 ^ 53
  leading : e = -1074 ∨ 2 ^ 52 ≤ m

/-- The bits of the double `m · 2 ^ e`. -/
def magnitude (m : Nat) (e : Int) : Nat :=
  (e + 1074).toNat * twoTo 52 + m

/-- The magnitude of a finite number is below that of infinity. -/
theorem Representable.magnitude_lt {m : Nat} {e : Int} (h : Representable m e) :
    magnitude m e < 2047 * twoTo 52 := by
  obtain ⟨hleast, hgreatest, hm, -⟩ := h
  change (e + 1074).toNat * 2 ^ 52 + m < 2047 * 2 ^ 52
  omega

/-- The sign stands above the rest, of which the exponent field is the upper part. -/
theorem decodeBits_eq (negative : Bool) {n : Nat} (hn : n < 2 ^ 63) :
    decodeBits (n + if negative then twoTo 63 else 0) =
      if n / 2 ^ 52 = 2047 then if n % 2 ^ 52 = 0 then .infinite negative else .nan
      else if n / 2 ^ 52 = 0 then .finite negative (n % 2 ^ 52) (-1074)
      else .finite negative (n % 2 ^ 52 + 2 ^ 52) (((n / 2 ^ 52 : Nat) : Int) - 1075) := by
  unfold decodeBits
  simp only [show twoTo 63 = 2 ^ 63 from rfl, show twoTo 52 = 2 ^ 52 from rfl]
  generalize hbits : (n + if negative then 2 ^ 63 else 0) = bits
  have hsign : (bits / 2 ^ 63 % 2 == 1) = negative ∧ bits / 2 ^ 52 % 2048 = n / 2 ^ 52 ∧
      bits % 2 ^ 52 = n % 2 ^ 52 := by
    cases negative
    · simp only [Bool.false_eq_true, if_false] at hbits
      exact ⟨by simp; omega, by omega, by omega⟩
    · simp only [if_true] at hbits
      exact ⟨by simp; omega, by omega, by omega⟩
  rw [hsign.1, hsign.2.1, hsign.2.2]

/-- Bits below those of infinity are a finite number with this magnitude. -/
theorem decodeBits_finite (negative : Bool) {n : Nat} (hn : n < 2047 * twoTo 52) :
    ∃ m e, decodeBits (n + if negative then twoTo 63 else 0) = .finite negative m e ∧
      Representable m e ∧ magnitude m e = n := by
  change n < 2047 * 2 ^ 52 at hn
  rw [decodeBits_eq negative (by omega), if_neg (by omega)]
  unfold magnitude
  rw [show twoTo 52 = 2 ^ 52 from rfl]
  split
  case isTrue h => exact ⟨_, _, rfl, ⟨by omega, by omega, by omega, .inl rfl⟩, by omega⟩
  case isFalse h => exact ⟨_, _, rfl, ⟨by omega, by omega, by omega, .inr (by omega)⟩, by omega⟩

/-- A double that is built from its magnitude is read back with it. -/
theorem decode_ofMagnitude {negative : Bool} {n : Nat} (hn : n < 2047 * twoTo 52) :
    ∃ m e, decode (ofMagnitude negative n) = .finite negative m e ∧ Representable m e ∧
      magnitude m e = n := by
  unfold decode
  rw [toBits_ofMagnitude hn.le]
  exact decodeBits_finite negative hn

/-- There is one non-number only. -/
theorem eq_notANumber {x : Float} {negative : Bool} {n : Nat} (hlow : 2047 * twoTo 52 < n)
    (hn : n < 2 ^ 63) (hbits : x.toBits.toNat = n + if negative then twoTo 63 else 0) :
    x = notANumber := by
  change 2047 * 2 ^ 52 < n at hlow
  have hsign : (if negative then twoTo 63 else 0) = 0 ∨ (if negative then twoTo 63 else 0) = 2 ^ 63 := by
    cases negative
    · exact .inl rfl
    · exact .inr rfl
  generalize (if negative then twoTo 63 else 0) = sign at hbits hsign
  have hpacked : x.toBits.toBitVec = packedNaN Format.binary64 := by
    refine x.toModel.valid.eq_packedNaN ?_ ?_
    · rw [unpackExponent_def]
      apply BitVec.eq_of_toNat_eq
      change (x.toBits.toBitVec.extractLsb' 52 11).toNat = 2047
      rw [BitVec.extractLsb'_toNat, UInt64.toNat_toBitVec, hbits, Nat.shiftRight_eq_div_pow]
      omega
    · rw [unpackMantissa_def]
      intro hzero
      have hzero := congrArg BitVec.toNat hzero
      change (x.toBits.toBitVec.extractLsb' 0 52).toNat = 0 at hzero
      rw [BitVec.extractLsb'_toNat, UInt64.toNat_toBitVec, hbits, Nat.shiftRight_eq_div_pow] at hzero
      omega
  have hnan : notANumber.toBits.toBitVec = packedNaN Format.binary64 := by decide +kernel
  exact Float.toBits_inj.mp (UInt64.toBitVec_inj.mp (hpacked.trans hnan.symm))

/-- **The doubles by their values.** -/
theorem decode_cases (x : Float) :
    (decode x = .nan ∧ x = notANumber) ∨
      (∃ negative, decode x = .infinite negative ∧ x = infinity negative) ∨
      ∃ negative m e, decode x = .finite negative m e ∧ Representable m e ∧
        x = ofMagnitude negative (magnitude m e) := by
  obtain ⟨negative, n, hn, hbits⟩ : ∃ (negative : Bool) (n : Nat), n < 2 ^ 63 ∧
      x.toBits.toNat = n + if negative then twoTo 63 else 0 := by
    have hlt : x.toBits.toNat < 2 ^ 64 := x.toBits.toNat_lt
    rcases lt_or_ge x.toBits.toNat (2 ^ 63) with h | h
    · exact ⟨false, x.toBits.toNat, h, rfl⟩
    · exact ⟨true, x.toBits.toNat - 2 ^ 63, by omega, by simp only [if_true]; change _ = _ + 2 ^ 63; omega⟩
  have hdecode : decode x = decodeBits (n + if negative then twoTo 63 else 0) := by rw [decode, hbits]
  rcases lt_trichotomy n (2047 * twoTo 52) with hlt | rfl | hgt
  · obtain ⟨m, e, hfinite, hme, rfl⟩ := decodeBits_finite negative hlt
    exact .inr (.inr ⟨negative, m, e, hdecode.trans hfinite, hme, eq_ofMagnitude hbits⟩)
  · refine .inr (.inl ⟨negative, hdecode.trans ?_, eq_ofMagnitude hbits⟩)
    rw [decodeBits_eq negative hn]
    rfl
  · refine .inl ⟨hdecode.trans ?_, eq_notANumber hgt hn hbits⟩
    change 2047 * 2 ^ 52 < n at hgt
    rw [decodeBits_eq negative hn, if_pos (by omega), if_neg (by omega)]

end ParLang.Number
