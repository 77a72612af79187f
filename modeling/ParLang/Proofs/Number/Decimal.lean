import ParLang.Number.Reading
import ParLang.Proofs.Number.Shortest
import ParLang.Proofs.Token.Scanning

/-!
# Decimal text of doubles

A text of digits with at most one point reads as a natural number times a power of ten, rounded to the
nearest double. `ReadsAs` says which number that is for a text that is written.
-/

namespace ParLang.Number

open Cursor

/-! ## Reading -/

/-- The value of digits is that of the library's own function. -/
theorem digitsValue_eq (ds : List Char) : digitsValue ds = Nat.ofDigitChars 10 ds 0 :=
  Nat.ofDigitChars_eq_foldl.symm

/-- What starts with a digit has no sign and is none of the words. -/
theorem readDecimal?_of_isDigit {text : String} {c : Char} {cs : List Char}
    (htext : text.toList = c :: cs) (hc : c.isDigit) :
    readDecimal? text = readUnsigned? false (c :: cs) := by
  have hsign : splitSign (c :: cs) = (false, c :: cs) := by
    unfold splitSign
    split
    case h_1 h => cases h; exact absurd hc (by decide)
    case h_2 h => cases h; exact absurd hc (by decide)
    case h_3 => rfl
  have hletter : c.toLower ≠ 'i' ∧ c.toLower ≠ 'n' := by
    have hall : Text.digits.all
        fun d => d.toLower != 'i' && d.toLower != 'n' := by decide
    simpa using List.all_eq_true.mp hall c (Text.mem_digits_of_isDigit hc)
  unfold readDecimal?
  rw [htext, hsign]
  simp only [List.map_cons]
  split
  case h_1 h | h_2 h => exact absurd (List.cons.inj (String.ofList_injective h)).1 hletter.1
  case h_3 h => exact absurd (List.cons.inj (String.ofList_injective h)).1 hletter.2
  case h_4 => rfl

/-- Digits alone are read with an exponent of zero. -/
theorem readUnsigned?_digits (negative : Bool) {ds : List Char} (h : IsDigits ds) :
    readUnsigned? negative ds = some (ofDecimal negative (digitsValue ds) 0) := by
  simp [readUnsigned?, h.takeWhile, h.dropWhile, h.1, readExponent?]

/-- Digits with a point between them are read as a whole with an exponent below zero. -/
theorem readUnsigned?_fraction (negative : Bool) {ds fs : List Char} (hds : IsDigits ds)
    (hfs : IsDigits fs) : readUnsigned? negative (ds ++ '.' :: fs) =
      some (ofDecimal negative (digitsValue (ds ++ fs)) (-fs.length)) := by
  have hstop : ∀ d ∈ ('.' :: fs).head?, d.isDigit = false := by rintro _ ⟨⟩; decide
  have hwhole := takeWhile_append_of_stop hds.2 hstop
  have hrest := dropWhile_append_of_stop hds.2 hstop
  unfold readUnsigned?
  rw [hwhole, hrest]
  simp [hfs.takeWhile, hfs.dropWhile, readExponent?, hds.1]

/-- A text of digits is a number. -/
theorem readDecimal?_digits {text : String} (h : IsDigits text.toList) :
    readDecimal? text = some (ofDecimal false (digitsValue text.toList) 0) := by
  obtain ⟨c, cs, hcs⟩ := List.exists_cons_of_ne_nil h.1
  rw [readDecimal?_of_isDigit hcs (h.2 c (by rw [hcs]; exact List.mem_cons_self)), ← hcs,
    readUnsigned?_digits false h]

/-- So is one of digits with a point between. -/
theorem readDecimal?_fraction {text : String} {ds fs : List Char} (hds : IsDigits ds)
    (hfs : IsDigits fs) (htext : text.toList = ds ++ '.' :: fs) :
    readDecimal? text = some (ofDecimal false (digitsValue (ds ++ fs)) (-fs.length)) := by
  obtain ⟨c, cs, rfl⟩ := List.exists_cons_of_ne_nil hds.1
  rw [List.cons_append] at htext
  rw [readDecimal?_of_isDigit htext (hds.2 c List.mem_cons_self), ← List.cons_append,
    readUnsigned?_fraction false hds hfs]

/-! ## The place of the leading digit -/

/-- A number lies between the powers of ten that its count of digits tells. -/
theorem length_toDigits_spec {n : Nat} (hn : 0 < n) :
    (10 : ℚ) ^ ((Nat.toDigits 10 n).length - 1 : Int) ≤ n ∧
      (n : ℚ) < 10 ^ ((Nat.toDigits 10 n).length : Int) := by
  obtain ⟨k, hk⟩ : ∃ k, (Nat.toDigits 10 n).length = k + 1 :=
    Nat.exists_eq_succ_of_ne_zero (by simp [Nat.toDigits_ne_nil])
  rw [hk]
  constructor
  · have hle : 10 ^ k ≤ n := by
      rcases Nat.eq_zero_or_pos k with rfl | hpos
      · exact hn
      · refine not_lt.mp fun h => ?_
        have := (Nat.length_toDigits_le_iff (by omega) hpos).mpr h
        omega
    push_cast
    rw [add_sub_cancel_right, zpow_natCast]
    exact_mod_cast hle
  · have hlt : n < 10 ^ (k + 1) := (Nat.length_toDigits_le_iff (by omega) (by omega)).mp hk.le
    exact_mod_cast hlt

section
variable {m : Nat} {e : Int}

/-- All doubles are below a power of ten, which bounds the exponents that have to be looked at. -/
theorem two_zpow_le : (2 : ℚ) ^ (1024 : Int) ≤ 10 ^ (330 : Int) := by
  calc (2 : ℚ) ^ (1024 : Int)
      ≤ 2 ^ (13 * 79 : Int) := zpow_le_zpow_right₀ (by norm_num) (by norm_num)
    _ = (2 ^ (13 : Int)) ^ (79 : Int) := zpow_mul _ _ _
    _ ≤ (10 ^ (4 : Int)) ^ (79 : Int) :=
      zpow_le_zpow_left₀ (by norm_num) (by positivity) (by norm_num)
    _ = 10 ^ (4 * 79 : Int) := (zpow_mul _ _ _).symm
    _ ≤ 10 ^ (330 : Int) := zpow_le_zpow_right₀ (by norm_num) (by norm_num)

/-- What is rounded to a finite double is in the range where the place of the leading digit does not
decide. -/
theorem Interval.Mem.bounds {v : ℚ} (h : Representable m e) (hm : 0 < m)
    (hv : (Interval.around m e).Mem v) : 10 ^ (-331 : Int) ≤ v ∧ v < 10 ^ (330 : Int) := by
  have hm1 : (1 : ℚ) ≤ m := by exact_mod_cast hm
  have hm53 : (m + 1 : ℚ) ≤ 2 ^ (53 : Int) := by exact_mod_cast h.mantissa
  constructor
  · calc (10 : ℚ) ^ (-331 : Int) ≤ 2 ^ (-1079 + 4 : Int) :=
          ten_zpow_le (by norm_num) (by norm_num) (by norm_num)
      _ ≤ 2 ^ (e - 1) := zpow_le_zpow_right₀ (by norm_num) (by have := h.least; omega)
      _ = 1 / 2 * 2 ^ e := by rw [zpow_sub₀ (by norm_num), zpow_one]; ring
      _ ≤ (m - 1 / 2) * 2 ^ e := by gcongr; linarith
      _ ≤ v := (low_around hm).trans hv.low
  · calc v ≤ (m + 1 / 2) * 2 ^ e := high_around ▸ hv.high
      _ < 2 ^ (53 : Int) * 2 ^ e := by gcongr; linarith
      _ = 2 ^ (53 + e) := (zpow_add₀ (by norm_num) _ _).symm
      _ ≤ 2 ^ (1024 : Int) := zpow_le_zpow_right₀ (by norm_num) (by have := h.greatest; omega)
      _ ≤ 10 ^ (330 : Int) := two_zpow_le

/-- A decimal in the interval around a double reads as that double. -/
theorem ofDecimal_eq {negative : Bool} (h : Representable m e) (hm : 0 < m) {D : Nat} {E : Int}
    (hv : (Interval.around m e).Mem (D * 10 ^ E)) :
    ofDecimal negative D E = ofMagnitude negative (magnitude m e) := by
  obtain ⟨hlow, hhigh⟩ := hv.bounds h hm
  have hD : D ≠ 0 := by
    rintro rfl
    rw [Nat.cast_zero, zero_mul] at hlow
    exact absurd hlow (not_le.mpr (by positivity))
  obtain ⟨hfirst, hlast⟩ := length_toDigits_spec (Nat.pos_of_ne_zero hD)
  unfold ofDecimal
  generalize (Nat.toDigits 10 D).length = l at hfirst hlast
  have hbelow : -331 < E + l := by
    have : (10 : ℚ) ^ (-331 : Int) < 10 ^ (E + l) := by
      calc (10 : ℚ) ^ (-331 : Int) ≤ D * 10 ^ E := hlow
        _ < 10 ^ (l : Int) * 10 ^ E := by gcongr
        _ = 10 ^ (E + l) := by rw [← zpow_add₀ (by norm_num), add_comm]
    exact (zpow_lt_zpow_iff_right₀ (by norm_num)).mp this
  have habove : E + l - 1 < 330 := by
    have : (10 : ℚ) ^ (E + l - 1) < 10 ^ (330 : Int) := by
      calc (10 : ℚ) ^ (E + l - 1) = 10 ^ (l - 1 : Int) * 10 ^ E := by
            rw [← zpow_add₀ (by norm_num)]; congr 1; omega
        _ ≤ D * 10 ^ E := by gcongr
        _ < 10 ^ (330 : Int) := hhigh
    exact (zpow_lt_zpow_iff_right₀ (by norm_num)).mp this
  rw [if_neg (by omega), if_neg (by omega)]
  split
  case isTrue hE =>
    obtain ⟨k, rfl⟩ : ∃ k : Nat, E = -k := ⟨(-E).toNat, by omega⟩
    have hden : 0 < tenTo k := Nat.pow_pos (by omega)
    rw [neg_neg, Int.toNat_natCast, nearest, nearestBits_eq_magnitude h hm hden]
    simpa [tenTo, div_eq_mul_inv] using hv
  case isFalse hE =>
    obtain ⟨k, rfl⟩ : ∃ k : Nat, E = k := ⟨E.toNat, by omega⟩
    rw [Int.toNat_natCast, nearest, nearestBits_eq_magnitude h hm Nat.one_pos]
    simpa [tenTo] using hv

end

/-- No magnitude exceeds that of infinity. -/
theorem nearestBits_le (num den : Nat) : nearestBits num den ≤ 2047 * twoTo 52 := by
  unfold nearestBits
  split
  · exact Nat.zero_le _
  · exact Nat.min_le_right _ _

/-- The sign plays no part in the rounding. -/
theorem ofDecimal_eq_ofMagnitude (D : Nat) (E : Int) :
    ∃ n ≤ 2047 * twoTo 52, ∀ negative, ofDecimal negative D E = ofMagnitude negative n := by
  unfold ofDecimal
  simp only
  split_ifs
  · exact ⟨0, Nat.zero_le _, fun _ => rfl⟩
  · exact ⟨_, le_rfl, fun _ => rfl⟩
  · exact ⟨_, nearestBits_le _ _, fun _ => rfl⟩
  · exact ⟨_, nearestBits_le _ _, fun _ => rfl⟩

/-! ## Writing -/

/-- A natural number is written in its digits. -/
theorem toList_toString (n : Nat) : (toString n).toList = Nat.toDigits 10 n := by
  rw [Nat.toString_eq_ofList_toDigits, String.toList_ofList]

/-- These are digits, and at least one. -/
theorem isDigits_toDigits (n : Nat) : IsDigits (Nat.toDigits 10 n) :=
  ⟨Nat.toDigits_ne_nil, fun _ h => Nat.isDigit_of_mem_toDigits (by omega) (by omega) h⟩

/-- Zeros are digits. -/
theorem isDigit_of_mem_zeros {k : Nat} {d : Char} (h : d ∈ List.replicate k '0') : d.isDigit := by
  rw [List.eq_of_mem_replicate h]
  decide

/-- The text is decimal and reads as the double nearest to the number. -/
def ReadsAs (text : String) (v : ℚ) : Prop :=
  IsDecimal text.toList ∧
    ∃ D E, readDecimal? text = some (ofDecimal false D E) ∧ (D : ℚ) * 10 ^ E = v

/-- A natural number is read back as itself. -/
theorem readsAs_toString (n : Nat) : ReadsAs (toString n) n := by
  have hds : IsDigits (toString n).toList := toList_toString n ▸ isDigits_toDigits n
  refine ⟨.inl hds, n, 0, ?_, by simp⟩
  rw [readDecimal?_digits hds, toList_toString, digitsValue_eq, Nat.ofDigitChars_ten_toDigits]

/-- Zeros behind it multiply it by powers of ten. -/
theorem readsAs_append_zeros (n k : Nat) :
    ReadsAs (toString n ++ "".pushn '0' k) (n * 10 ^ (k : Int)) := by
  have htext : (toString n ++ "".pushn '0' k).toList =
      Nat.toDigits 10 n ++ List.replicate k '0' := by
    rw [String.toList_append, toList_toString, Text.toList_pushn]
  have hds : IsDigits (toString n ++ "".pushn '0' k).toList := by
    rw [htext]
    refine ⟨by simp [Nat.toDigits_ne_nil], fun d hd => ?_⟩
    rcases List.mem_append.mp hd with hd | hd
    · exact (isDigits_toDigits n).2 d hd
    · exact isDigit_of_mem_zeros hd
  refine ⟨.inl hds, 10 ^ k * n, 0, ?_, ?_⟩
  · rw [readDecimal?_digits hds, htext, digitsValue_eq, Nat.ofDigitChars_append,
      Nat.ofDigitChars_ten_toDigits, Nat.ofDigitChars_replicate_zero]
  · push_cast
    rw [mul_one, zpow_natCast, mul_comm]

/-- A point before the last `places` digits. -/
theorem readsAs_point {n places : Nat} (hpos : 0 < places) {padded : List Char}
    (hpadded : padded = List.replicate (places + 1 - (toString n).length) '0' ++ Nat.toDigits 10 n) :
    ReadsAs (String.ofList (padded.take (padded.length - places)) ++ "." ++
      String.ofList (padded.drop (padded.length - places))) (n * 10 ^ (-places : Int)) := by
  have hlength : places + 1 ≤ padded.length := by
    rw [hpadded, List.length_append, List.length_replicate, ← toList_toString, String.length_toList]
    omega
  have hdigits : ∀ d ∈ padded, d.isDigit := by
    intro d hd
    rw [hpadded] at hd
    rcases List.mem_append.mp hd with hd | hd
    · exact isDigit_of_mem_zeros hd
    · exact (isDigits_toDigits n).2 d hd
  have hwhole : IsDigits (padded.take (padded.length - places)) := by
    refine ⟨fun h => ?_, fun d hd => hdigits d (List.mem_of_mem_take hd)⟩
    have := congrArg List.length h
    rw [List.length_take, List.length_nil] at this
    omega
  have hplaces : (padded.drop (padded.length - places)).length = places := by
    rw [List.length_drop]
    omega
  have hfraction : IsDigits (padded.drop (padded.length - places)) := by
    refine ⟨fun h => ?_, fun d hd => hdigits d (List.mem_of_mem_drop hd)⟩
    rw [h] at hplaces
    exact absurd hplaces hpos.ne
  have hvalue : digitsValue padded = n := by
    rw [digitsValue_eq, hpadded, Nat.ofDigitChars_append, Nat.ofDigitChars_replicate_zero,
      Nat.mul_zero, Nat.ofDigitChars_ten_toDigits]
  have htext : (String.ofList (padded.take (padded.length - places)) ++ "." ++
      String.ofList (padded.drop (padded.length - places))).toList =
      padded.take (padded.length - places) ++ '.' :: padded.drop (padded.length - places) := by
    simp
  refine ⟨.inr ⟨_, _, hwhole, hfraction, htext⟩, n, -places, ?_, rfl⟩
  rw [readDecimal?_fraction hwhole hfraction htext, List.take_append_drop, hvalue, hplaces]

/-- A decimal is read back from its plain spelling, wherever the point stands in it. -/
theorem Decimal.readsAs_plain (d : Decimal) : ReadsAs d.plain (d.digits * 10 ^ d.exponent) := by
  unfold Decimal.plain
  simp only
  split
  case isTrue h =>
    obtain ⟨k, hk⟩ := Int.eq_ofNat_of_zero_le h
    rw [hk]
    exact readsAs_append_zeros d.digits k
  case isFalse h =>
    obtain ⟨k, hk⟩ := Int.eq_ofNat_of_zero_le (by omega : 0 ≤ -d.exponent)
    rw [hk, show d.exponent = -k by omega]
    refine readsAs_point (by omega) ?_
    rw [String.toList_append, Text.toList_pushn, toList_toString]

/-! ## The numbers that are written -/

/-- The whole part of a whole number is the number. -/
theorem wholePart_eq {m : Nat} {e : Int} (h : isWhole m e = true) :
    (wholePart m e : ℚ) = m * 2 ^ e := by
  unfold wholePart
  split
  case isTrue he =>
    obtain ⟨k, rfl⟩ : ∃ k : Nat, e = -k := ⟨(-e).toNat, by omega⟩
    rw [neg_neg, Int.toNat_natCast]
    have hk : k ≠ 0 := by omega
    obtain ⟨c, rfl⟩ : twoTo k ∣ m := Nat.dvd_of_mod_eq_zero (by simpa [isWhole, hk] using h)
    have hpos : 0 < twoTo k := Nat.two_pow_pos k
    rw [Nat.mul_div_cancel_left c hpos]
    simp only [twoTo, Nat.pow_eq, zpow_neg, zpow_natCast]
    push_cast
    field_simp
  case isFalse he =>
    obtain ⟨k, rfl⟩ : ∃ k : Nat, e = k := ⟨e.toNat, by omega⟩
    simp [twoTo]

/-- A double is in its own interval. -/
theorem mem_around_self {m : Nat} {e : Int} (hm : 0 < m) : (Interval.around m e).Mem (m * 2 ^ e) := by
  have hvalue : (m * 2 ^ e : ℚ) = (4 * m : Nat) * 2 ^ (Interval.around m e).exponent := by
    simp only [Interval.around, zpow_quarter]
    push_cast
    ring
  have hlow : (Interval.around m e).low < 4 * m := by
    simp only [Interval.around]
    split <;> omega
  have hhigh : 4 * m < (Interval.around m e).high := by
    simp only [Interval.around]
    omega
  rw [hvalue]
  refine ⟨?_, ?_, fun _ => ⟨?_, ?_⟩⟩ <;> gcongr

end ParLang.Number
