import ParLang.Proofs.Number.Decimal

/-!
# Number text

The texts that a program's conversion accepts, as a grammar. A conversion strips a sign, looks for the two
words, refuses other letters and then hands the whole text on, so what is accepted is read off the
library's reading of decimal text, of which only the words in another case are taken away. What a number
is written as is in the grammar and reads as that number.
-/

namespace ParLang.Number

open Cursor

/-! ## The grammar -/

/-- At most one sign. -/
inductive Sign : List Char → Prop
  | absent : Sign []
  | plus : Sign ['+']
  | minus : Sign ['-']

/-- Digits and at most one point, with digits on at least one side of it. -/
inductive Mantissa : List Char → Prop
  | whole {ds : List Char} (hds : IsDigits ds) : Mantissa ds
  | point {ds fs : List Char} (hds : IsDigits ds) (hfs : ∀ f ∈ fs, f.isDigit) : Mantissa (ds ++ '.' :: fs)
  | fraction {fs : List Char} (hfs : IsDigits fs) : Mantissa ('.' :: fs)

/-- At most one exponent. -/
inductive Exponent : List Char → Prop
  | absent : Exponent []
  | present {e : Char} {s ds : List Char} (he : e = 'e' ∨ e = 'E') (hs : Sign s) (hds : IsDigits ds) :
    Exponent (e :: (s ++ ds))

/-- A number without its sign. -/
inductive Unsigned : List Char → Prop
  | nan : Unsigned "NaN".toList
  | infinity : Unsigned "Infinity".toList
  | decimal {m e : List Char} (hm : Mantissa m) (he : Exponent e) : Unsigned (m ++ e)

/-- The text of a number. -/
def NumberText (cs : List Char) : Prop :=
  ∃ s body, Sign s ∧ Unsigned body ∧ cs = s ++ body

/-- The words of the library's grammar, which it reads in any case. -/
def words : List (List Char) :=
  ["inf".toList, "infinity".toList, "nan".toList]

/-- A word of the library's grammar that is not spelled as a program must spell it. -/
def Misspelled (cs : List Char) : Prop :=
  ∃ s w, Sign s ∧ w.map Char.toLower ∈ words ∧ w ≠ "NaN".toList ∧ w ≠ "Infinity".toList ∧ cs = s ++ w

/-! ## The characters of a number -/

/-- The characters of a number that is none of the words. -/
def numerals : List Char :=
  Text.digits ++ ['.', 'e', 'E', '+', '-']

/-- A digit is one of the characters of a number. -/
theorem mem_numerals_of_isDigit {c : Char} (h : c.isDigit) : c ∈ numerals :=
  List.mem_append_left _ (Text.mem_digits_of_isDigit h)

/-- Among these characters there are no blanks, and the exponent's mark is the only letter. The two words
hold no blanks either. -/
theorem numerals_spec :
    numerals.all (fun c => !Text.isBlank c && (!Text.isLetter c || c == 'e' || c == 'E')) ∧
      ("NaN".toList ++ "Infinity".toList).all fun c => !Text.isBlank c := by
  decide +kernel

section
variable {s m e ds cs body w text : List Char} {c : Char}

/-- A sign is written with them. -/
theorem Sign.mem (h : Sign s) (hc : c ∈ s) : c ∈ numerals := by
  cases h with
  | absent => cases hc
  | plus | minus => rw [List.mem_singleton.mp hc]; decide

/-- So is what stands before an exponent. -/
theorem Mantissa.mem (h : Mantissa m) (hc : c ∈ m) : c ∈ numerals := by
  cases h with
  | whole hds => exact mem_numerals_of_isDigit (hds.2 c hc)
  | point hds hfs =>
    rcases List.mem_append.mp hc with hc | hc
    · exact mem_numerals_of_isDigit (hds.2 c hc)
    · rcases List.mem_cons.mp hc with rfl | hc
      · decide
      · exact mem_numerals_of_isDigit (hfs c hc)
  | fraction hfs =>
    rcases List.mem_cons.mp hc with rfl | hc
    · decide
    · exact mem_numerals_of_isDigit (hfs.2 c hc)

/-- So is an exponent. -/
theorem Exponent.mem (h : Exponent e) (hc : c ∈ e) : c ∈ numerals := by
  cases h with
  | absent => cases hc
  | present he hs hds =>
    rcases List.mem_cons.mp hc with rfl | hc
    · rcases he with rfl | rfl <;> decide
    · rcases List.mem_append.mp hc with hc | hc
      · exact hs.mem hc
      · exact mem_numerals_of_isDigit (hds.2 c hc)

/-- So is a number that is no word. -/
theorem mem_numerals (hm : Mantissa m) (he : Exponent e) (hc : c ∈ m ++ e) : c ∈ numerals :=
  (List.mem_append.mp hc).elim hm.mem he.mem

/-- None of them is trimmed. -/
theorem isBlank_of_mem_numerals (h : c ∈ numerals) : Text.isBlank c = false := by
  have := List.all_eq_true.mp numerals_spec.1 c h
  simp only [Bool.and_eq_true, Bool.not_eq_true'] at this
  exact this.1

/-- A letter among them is the mark of an exponent. -/
theorem isLetter_of_mem_numerals (h : c ∈ numerals) (hletter : Text.isLetter c) : c = 'e' ∨ c = 'E' := by
  have := List.all_eq_true.mp numerals_spec.1 c h
  simpa [hletter] using (Bool.and_eq_true_iff.mp this).2

/-- No accepted text holds a blank. -/
theorem NumberText.isBlank (h : NumberText cs) (hc : c ∈ cs) : Text.isBlank c = false := by
  have hword : ∀ d ∈ "NaN".toList ++ "Infinity".toList, Text.isBlank d = false := by
    simpa using numerals_spec.2
  obtain ⟨s, body, hs, hbody, rfl⟩ := h
  rcases List.mem_append.mp hc with hc | hc
  · exact isBlank_of_mem_numerals (hs.mem hc)
  · cases hbody with
    | nan => exact hword c (List.mem_append_left _ hc)
    | infinity => exact hword c (List.mem_append_right _ hc)
    | decimal hm he => exact isBlank_of_mem_numerals (mem_numerals hm he hc)

/-! ## Trimming -/

/-- Trimming takes blanks at both ends and nothing else. -/
theorem trimBlanks_spec (cs : List Char) :
    ∃ before after, cs = before ++ trimBlanks cs ++ after ∧ ∀ c ∈ before ++ after, Text.isBlank c := by
  refine ⟨cs.takeWhile Text.isBlank, ((cs.dropWhile Text.isBlank).reverse.takeWhile Text.isBlank).reverse,
    ?_, fun c hc => ?_⟩
  · rw [trimBlanks, dropTrailing, List.append_assoc, ← List.reverse_append, List.takeWhile_append_dropWhile,
      List.reverse_reverse, List.takeWhile_append_dropWhile]
  · rcases List.mem_append.mp hc with hc | hc
    · exact List.mem_takeWhile_imp hc
    · exact List.mem_takeWhile_imp (List.mem_reverse.mp hc)

/-- It takes all blanks around a text without blanks. -/
theorem trimBlanks_eq {before after : List Char} (hblank : ∀ c ∈ before ++ after, Text.isBlank c)
    (hcs : ∀ c ∈ cs, Text.isBlank c = false) : trimBlanks (before ++ cs ++ after) = cs := by
  rcases cs with - | ⟨c, cs⟩
  · rw [List.append_nil, trimBlanks, List.dropWhile_eq_nil_iff.mpr hblank]
    rfl
  · obtain ⟨hbefore, hafter⟩ := List.forall_mem_append.mp hblank
    have hfront : (before ++ (c :: cs ++ after)).dropWhile Text.isBlank = c :: cs ++ after :=
      dropWhile_append_of_stop hbefore (by rintro _ ⟨⟩; exact hcs c List.mem_cons_self)
    have hback : (after.reverse ++ (c :: cs).reverse).dropWhile Text.isBlank = (c :: cs).reverse :=
      dropWhile_append_of_stop (fun d hd => hafter d (List.mem_reverse.mp hd))
        fun d hd => hcs d (List.mem_reverse.mp (List.mem_of_mem_head? hd))
    rw [trimBlanks, List.append_assoc, hfront, dropTrailing, List.reverse_append, hback, List.reverse_reverse]

/-! ## What the library reads -/

/-- Where no sign is next, a sign ends there. -/
theorem splitSign_append (hs : Sign s) (hcs : ∀ c ∈ cs.head?, c ≠ '+' ∧ c ≠ '-') :
    splitSign (s ++ cs) = (decide (s = ['-']), cs) := by
  cases hs with
  | absent =>
    rw [List.nil_append]
    unfold splitSign
    split
    case h_1 => exact absurd rfl (hcs _ rfl).2
    case h_2 => exact absurd rfl (hcs _ rfl).1
    case h_3 => rfl
  | plus => rfl
  | minus => rfl

/-- A sign at the front is split off, if there is one. -/
theorem splitSign_spec (cs : List Char) : ∃ s, Sign s ∧ cs = s ++ (splitSign cs).2 := by
  unfold splitSign
  split
  case h_1 => exact ⟨_, .minus, rfl⟩
  case h_2 => exact ⟨_, .plus, rfl⟩
  case h_3 => exact ⟨_, .absent, rfl⟩

/-- A digit is no sign. -/
theorem not_sign_of_isDigit (h : c.isDigit) : c ≠ '+' ∧ c ≠ '-' := by
  constructor <;> (rintro rfl; exact absurd h (by decide))

/-- An exponent is read where there is one, or nothing at all. -/
theorem isSome_readExponent? : (readExponent? cs).isSome ↔ Exponent cs := by
  constructor
  · cases cs with
    | nil => exact fun _ => .absent
    | cons e rest =>
      obtain ⟨s, hs, hrest⟩ := splitSign_spec rest
      simp only [readExponent?]
      split
      case isTrue h =>
        intro _
        rw [hrest]
        exact .present h.1 hs ⟨h.2.1, List.all_eq_true.mp h.2.2⟩
      case isFalse => exact fun h => absurd h (by simp)
  · intro h
    cases h with
    | absent => rfl
    | present he hs hds =>
      have hsplit := splitSign_append hs fun c hc =>
        not_sign_of_isDigit (hds.2 c (List.mem_of_mem_head? hc))
      rw [readExponent?, hsplit]
      simp only
      rw [if_pos ⟨he, hds.1, List.all_eq_true.mpr hds.2⟩]
      rfl

/-- No digit starts an exponent, so the digits in front of it end there. -/
theorem Exponent.stops (h : Exponent e) : ∀ c ∈ e.head?, c.isDigit = false := by
  cases h with
  | absent => exact nofun
  | present he =>
    rintro _ ⟨⟩
    rcases he with rfl | rfl <;> decide

/-- A number without a point, with its exponent. -/
theorem readUnsigned?_whole (negative : Bool) (hds : IsDigits ds) (he : Exponent e) :
    readUnsigned? negative (ds ++ e) =
      (readExponent? e).map fun exponent => ofDecimal negative (digitsValue ds) exponent := by
  unfold readUnsigned?
  rw [takeWhile_append_of_stop hds.2 he.stops, dropWhile_append_of_stop hds.2 he.stops]
  cases he with
  | absent => simp [hds.1]
  | present hletter => rcases hletter with rfl | rfl <;> simp [hds.1]

/-- A number with a point, and digits on at least one side of it. -/
theorem readUnsigned?_point (negative : Bool) {fs : List Char} (hds : ∀ d ∈ ds, d.isDigit)
    (hfs : ∀ f ∈ fs, f.isDigit) (he : Exponent e) (hsome : ¬ (ds = [] ∧ fs = [])) :
    readUnsigned? negative (ds ++ '.' :: fs ++ e) =
      (readExponent? e).map fun exponent =>
        ofDecimal negative (digitsValue (ds ++ fs)) (exponent - fs.length) := by
  have hstop : ∀ d ∈ ('.' :: (fs ++ e)).head?, d.isDigit = false := by rintro _ ⟨⟩; decide
  unfold readUnsigned?
  rw [List.append_assoc, List.cons_append, takeWhile_append_of_stop hds hstop,
    dropWhile_append_of_stop hds hstop]
  simp only
  rw [takeWhile_append_of_stop hfs he.stops, dropWhile_append_of_stop hfs he.stops, if_neg hsome]

/-- What the library reads behind a sign is exactly what the grammar calls a mantissa with an exponent. -/
theorem isSome_readUnsigned? {negative : Bool} :
    (readUnsigned? negative cs).isSome ↔ ∃ m e, Mantissa m ∧ Exponent e ∧ cs = m ++ e := by
  constructor
  · have hcs : cs.takeWhile Char.isDigit ++ cs.dropWhile Char.isDigit = cs := List.takeWhile_append_dropWhile
    have hwhole : ∀ d ∈ cs.takeWhile Char.isDigit, d.isDigit := fun d hd => List.mem_takeWhile_imp hd
    unfold readUnsigned?
    generalize cs.takeWhile Char.isDigit = whole at hcs hwhole ⊢
    generalize cs.dropWhile Char.isDigit = behind at hcs ⊢
    subst hcs
    simp only
    split
    case h_1 rest =>
      have hfraction : ∀ d ∈ rest.takeWhile Char.isDigit, d.isDigit := fun d hd => List.mem_takeWhile_imp hd
      split_ifs with hnone
      · simp
      · intro h
        have he := isSome_readExponent?.mp (Option.isSome_map.symm.trans h)
        have hcs : whole ++ '.' :: rest =
            whole ++ '.' :: rest.takeWhile Char.isDigit ++ rest.dropWhile Char.isDigit := by
          rw [List.append_assoc, List.cons_append, List.takeWhile_append_dropWhile]
        refine ⟨_, _, ?_, he, hcs⟩
        rcases whole with - | ⟨d, ds⟩
        · exact .fraction ⟨fun hnil => hnone ⟨rfl, hnil⟩, hfraction⟩
        · exact .point ⟨List.cons_ne_nil d ds, hwhole⟩ hfraction
    case h_2 =>
      split_ifs with hnone
      · simp
      · intro h
        have he := isSome_readExponent?.mp (Option.isSome_map.symm.trans h)
        exact ⟨_, _, .whole ⟨fun hnil => hnone ⟨hnil, rfl⟩, hwhole⟩, he, rfl⟩
  · rintro ⟨m, e, hm, he, rfl⟩
    have hsome := isSome_readExponent?.mpr he
    cases hm with
    | whole hds => rwa [readUnsigned?_whole negative hds he, Option.isSome_map]
    | point hds hfs =>
      rwa [readUnsigned?_point negative hds.2 hfs he fun h => hds.1 h.1, Option.isSome_map]
    | fraction hfs =>
      rwa [← List.nil_append ('.' :: _), readUnsigned?_point negative (by simp) hfs.2 he fun h => hfs.1 h.2,
        Option.isSome_map]

/-- A character that another is the small letter of is that one or 32 below it. -/
theorem eq_or_toNat_of_toLower {c d : Char} (h : c.toLower = d) : c = d ∨ c.toNat + 32 = d.toNat := by
  subst h
  unfold Char.toLower
  split
  case isTrue h =>
    have hlast : c.toNat ≤ 'Z'.toNat := h.2
    change c.toNat ≤ 90 at hlast
    refine .inr ?_
    change c.toNat + 32 = (c.val + 32).toNat
    rw [UInt32.toNat_add]
    change c.toNat + 32 = (c.toNat + 32) % 2 ^ 32
    omega
  case isFalse => exact .inl rfl

/-- A word starts with a letter that starts no exponent. -/
theorem head_of_mem_words (h : w.map Char.toLower ∈ words) :
    ∃ c ∈ w.head?, Text.isLetter c ∧ c ≠ 'e' ∧ c ≠ 'E' := by
  have hfirst : ∀ u ∈ words, u.head? = some 'i' ∨ u.head? = some 'n' := by decide
  have hw := hfirst _ h
  rw [List.head?_map, Option.map_eq_some_iff, Option.map_eq_some_iff] at hw
  obtain ⟨c, hc, hsmall⟩ : ∃ c, w.head? = some c ∧ (c.toLower = 'i' ∨ c.toLower = 'n') := by
    rcases hw with ⟨c, hc, h⟩ | ⟨c, hc, h⟩
    · exact ⟨c, hc, .inl h⟩
    · exact ⟨c, hc, .inr h⟩
  have hmem : c ∈ ['i', 'I', 'n', 'N'] := by
    rcases hsmall with h | h
    · rcases eq_or_toNat_of_toLower h with rfl | h
      · decide
      · rw [show c = 'I' from Char.toNat_inj.mp (Nat.add_right_cancel h)]; decide
    · rcases eq_or_toNat_of_toLower h with rfl | h
      · decide
      · rw [show c = 'N' from Char.toNat_inj.mp (Nat.add_right_cancel h)]; decide
  have hletters : ['i', 'I', 'n', 'N'].all fun d => Text.isLetter d && d != 'e' && d != 'E' := by
    decide +kernel
  exact ⟨c, hc, by simpa [and_assoc] using List.all_eq_true.mp hletters c hmem⟩

/-- A list of characters is that of a word. -/
theorem ofList_eq_iff {w : String} : String.ofList cs = w ↔ cs = w.toList := by
  rw [← String.toList_inj, String.toList_ofList]

/-- What is no word behind its sign is read as a number. -/
theorem readDecimal?_of_not_mem_words (h : (splitSign cs).2.map Char.toLower ∉ words) :
    readDecimal? (String.ofList cs) = readUnsigned? (splitSign cs).1 (splitSign cs).2 := by
  unfold readDecimal?
  rw [String.toList_ofList]
  simp only
  split
  case h_1 hword | h_2 hword | h_3 hword => exact absurd (by simp [words, ofList_eq_iff.mp hword]) h
  case h_4 => rfl

/-- Behind the sign the library reads the words in any case, and decimal numbers. -/
theorem isSome_readDecimal? :
    (readDecimal? (String.ofList cs)).isSome ↔ (splitSign cs).2.map Char.toLower ∈ words ∨
      ∃ m e, Mantissa m ∧ Exponent e ∧ (splitSign cs).2 = m ++ e := by
  by_cases h : (splitSign cs).2.map Char.toLower ∈ words
  · refine iff_of_true ?_ (.inl h)
    unfold readDecimal?
    rw [String.toList_ofList]
    simp only [words, List.mem_cons, List.not_mem_nil, or_false, ← ofList_eq_iff] at h ⊢
    rcases h with h | h | h <;> simp [h]
  · rw [readDecimal?_of_not_mem_words h, isSome_readUnsigned?, or_iff_right h]

/-! ## What is accepted -/

/-- A mantissa starts with no sign. -/
theorem Mantissa.eq_cons (h : Mantissa m) : ∃ c cs, m = c :: cs ∧ c ≠ '+' ∧ c ≠ '-' := by
  cases h with
  | whole hds =>
    obtain ⟨d, ds, rfl⟩ := List.exists_cons_of_ne_nil hds.1
    exact ⟨d, ds, rfl, not_sign_of_isDigit (hds.2 d List.mem_cons_self)⟩
  | point hds =>
    obtain ⟨d, ds, rfl⟩ := List.exists_cons_of_ne_nil hds.1
    exact ⟨d, _, rfl, not_sign_of_isDigit (hds.2 d List.mem_cons_self)⟩
  | fraction => exact ⟨'.', _, rfl, by decide⟩

/-- A second sign is not part of a number. -/
theorem Unsigned.head (h : Unsigned body) : ∀ c ∈ body.head?, c ≠ '+' ∧ c ≠ '-' := by
  cases h with
  | nan | infinity => rintro _ ⟨⟩; decide
  | decimal hm =>
    obtain ⟨c, cs, rfl, hc⟩ := hm.eq_cons
    rintro _ ⟨⟩
    exact hc

/-- A number is accepted with a sign or without, so only what stands behind the sign matters. -/
theorem numberText_iff : NumberText cs ↔ Unsigned (splitSign cs).2 := by
  constructor
  · rintro ⟨s, body, hs, hbody, rfl⟩
    rwa [splitSign_append hs hbody.head]
  · obtain ⟨s, hs, hcs⟩ := splitSign_spec cs
    exact fun h => ⟨s, _, hs, h, hcs⟩

/-- A number that is not a word has no letter that a program's conversion refuses. -/
theorem not_any_of_decimal (hm : Mantissa m) (he : Exponent e) :
    ¬ (m ++ e = [] ∨ (m ++ e).any fun c => Text.isLetter c && c != 'e' && c != 'E') := by
  obtain ⟨c, cs, hcons, -⟩ := hm.eq_cons
  rintro (h | h)
  · simp [hcons] at h
  · obtain ⟨c, hc, h⟩ := List.any_eq_true.mp h
    simp only [Bool.and_eq_true, bne_iff_ne] at h
    exact (isLetter_of_mem_numerals (mem_numerals hm he hc) h.1.1).elim h.1.2 h.2

/-- A number written in digits is none of the words. -/
theorem not_mem_words_of_decimal (hm : Mantissa m) (he : Exponent e) :
    (m ++ e).map Char.toLower ∉ words := by
  intro h
  obtain ⟨c, hc, hletter, hne⟩ := head_of_mem_words h
  exact (isLetter_of_mem_numerals (mem_numerals hm he (List.mem_of_mem_head? hc)) hletter).elim hne.1 hne.2

/-- A program's conversion accepts the numbers. -/
theorem isSome_readNumber? (text : String) :
    (readNumber? text).isSome ↔ NumberText (trimBlanks text.toList) := by
  rw [numberText_iff]
  unfold readNumber?
  generalize trimBlanks text.toList = cs
  simp only
  split
  case h_1 h => simpa [ofList_eq_iff.mp h] using Unsigned.nan
  case h_2 h => simpa [ofList_eq_iff.mp h] using Unsigned.infinity
  case h_3 hnan hinfinity =>
    have hdecimal : Unsigned (splitSign cs).2 ↔
        ∃ m e, Mantissa m ∧ Exponent e ∧ (splitSign cs).2 = m ++ e := by
      constructor
      · generalize (splitSign cs).2 = body at hnan hinfinity
        intro h
        cases h with
        | nan => exact absurd rfl hnan
        | infinity => exact absurd rfl hinfinity
        | decimal hm he => exact ⟨_, _, hm, he, rfl⟩
      · rintro ⟨m, e, hm, he, h⟩
        exact h ▸ .decimal hm he
    rw [hdecimal]
    split_ifs with hletter
    · refine iff_of_false (by simp) ?_
      rintro ⟨m, e, hm, he, h⟩
      exact not_any_of_decimal hm he (h ▸ hletter)
    · rw [isSome_readDecimal?, or_iff_right]
      intro hword
      obtain ⟨c, hc, h, he, hE⟩ := head_of_mem_words hword
      exact hletter (.inr (List.any_eq_true.mpr ⟨c, List.mem_of_mem_head? hc, by simp [h, he, hE]⟩))

/-- A misspelled word is one that the library would take and the grammar does not. -/
theorem misspelled_iff :
    Misspelled cs ↔ (splitSign cs).2.map Char.toLower ∈ words ∧ (splitSign cs).2 ≠ "NaN".toList ∧
      (splitSign cs).2 ≠ "Infinity".toList := by
  constructor
  · rintro ⟨s, w, hs, hword, hnan, hinfinity, rfl⟩
    rw [splitSign_append hs]
    · exact ⟨hword, hnan, hinfinity⟩
    · obtain ⟨d, hd, hletter, -⟩ := head_of_mem_words hword
      intro c hc
      rw [Option.mem_unique hc hd]
      constructor <;> (rintro rfl; exact absurd hletter (by rw [isLetter_separator (by decide)]; decide))
  · obtain ⟨s, hs, hcs⟩ := splitSign_spec cs
    exact fun ⟨hword, hnan, hinfinity⟩ => ⟨s, _, hs, hword, hnan, hinfinity, hcs⟩

/-- The words in another case are all that the conversion refuses of what the library reads. -/
theorem isSome_readNumber?_iff (text : String) :
    (readNumber? text).isSome ↔
      (readDecimal? (String.ofList (trimBlanks text.toList))).isSome ∧
        ¬ Misspelled (trimBlanks text.toList) := by
  rw [isSome_readNumber?, isSome_readDecimal?, misspelled_iff, numberText_iff]
  generalize (splitSign (trimBlanks text.toList)).2 = body
  constructor
  · intro h
    cases h with
    | nan => exact ⟨.inl (by decide), fun h => h.2.1 rfl⟩
    | infinity => exact ⟨.inl (by decide), fun h => h.2.2 rfl⟩
    | decimal hm he => exact ⟨.inr ⟨_, _, hm, he, rfl⟩, fun h => not_mem_words_of_decimal hm he h.1⟩
  · rintro ⟨hword | ⟨m, e, hm, he, rfl⟩, hspelled⟩
    · by_cases hnan : body = "NaN".toList
      · exact hnan ▸ .nan
      · by_cases hinfinity : body = "Infinity".toList
        · exact hinfinity ▸ .infinity
        · exact absurd ⟨hword, hnan, hinfinity⟩ hspelled
    · exact .decimal hm he

/-! ## Reading what was written -/

/-- A decimal number is read with its sign. -/
theorem readNumber?_decimal (hs : Sign s) (hm : Mantissa m) (he : Exponent e) :
    readNumber? (String.ofList (s ++ (m ++ e))) = readUnsigned? (decide (s = ['-'])) (m ++ e) := by
  have hbody : Unsigned (m ++ e) := .decimal hm he
  have hsplit := splitSign_append hs hbody.head
  have htrim : trimBlanks (s ++ (m ++ e)) = s ++ (m ++ e) := by
    have h : trimBlanks ([] ++ (s ++ (m ++ e)) ++ []) = _ := trimBlanks_eq (by simp) fun c hc =>
      NumberText.isBlank ⟨s, _, hs, hbody, rfl⟩ hc
    rwa [List.nil_append, List.append_nil] at h
  have hword := not_mem_words_of_decimal hm he
  unfold readNumber?
  rw [String.toList_ofList, htrim]
  simp only [hsplit]
  split
  case h_1 h | h_2 h => exact absurd (by rw [ofList_eq_iff.mp h]; decide) hword
  case h_3 =>
    rw [if_neg (not_any_of_decimal hm he), readDecimal?_of_not_mem_words (by rwa [hsplit]), hsplit]

/-- A plain decimal is a mantissa. -/
theorem IsDecimal.mantissa (h : IsDecimal cs) : Mantissa cs := by
  rcases h with hds | ⟨ds, fs, hds, hfs, rfl⟩
  · exact .whole hds
  · exact .point hds hfs.2

/-- What is written with digits reads back with either sign. -/
theorem ReadsAs.readUnsigned? {text : String} {v : ℚ} (h : ReadsAs text v) (negative : Bool)
    {m : Nat} {e : Int} (hme : Representable m e) (hm : 0 < m) (hv : (Interval.around m e).Mem v) :
    readUnsigned? negative text.toList = some (ofMagnitude negative (magnitude m e)) := by
  obtain ⟨hdecimal, D, E, hread, rfl⟩ := h
  rw [ofDecimal_eq hme hm hv] at hread
  obtain ⟨D', E', hfalse, heither⟩ : ∃ D' E', readDecimal? text = some (ofDecimal false D' E') ∧
      Number.readUnsigned? negative text.toList = some (ofDecimal negative D' E') := by
    rcases hdecimal with hds | ⟨ds, fs, hds, hfs, htext⟩
    · exact ⟨_, _, readDecimal?_digits hds, readUnsigned?_digits negative hds⟩
    · exact ⟨_, _, readDecimal?_fraction hds hfs htext, htext ▸ readUnsigned?_fraction negative hds hfs⟩
  obtain ⟨n, hn, heq⟩ := ofDecimal_eq_ofMagnitude D' E'
  have hsame := Option.some.inj (hread.symm.trans hfalse)
  rw [heq false] at hsame
  rw [heither, heq negative, ofMagnitude_injective hme.magnitude_lt.le hn hsame]

/-- A minus sign in front of it turns the number around. -/
theorem ReadsAs.readNumber? {text : String} {v : ℚ} (h : ReadsAs text v) (negative : Bool)
    {m : Nat} {e : Int} (hme : Representable m e) (hm : 0 < m) (hv : (Interval.around m e).Mem v) :
    readNumber? ((if negative then "-" else "") ++ text) =
      some (ofMagnitude negative (magnitude m e)) := by
  have hs : Sign (if negative then ['-'] else []) := by
    cases negative
    · exact .absent
    · exact .minus
  have htext : (if negative then "-" else "") ++ text =
      String.ofList ((if negative then ['-'] else []) ++ (text.toList ++ [])) := by
    rw [← String.toList_inj, String.toList_append, String.toList_ofList, List.append_nil]
    cases negative <;> rfl
  have hnegative : decide ((if negative then ['-'] else []) = ['-']) = negative := by
    cases negative <;> rfl
  rw [htext, readNumber?_decimal hs (IsDecimal.mantissa h.1) .absent, hnegative, List.append_nil,
    h.readUnsigned? negative hme hm hv]

/-- A positive magnitude is not that of the negative zero, which is written without its sign. -/
theorem ofMagnitude_ne_negative_zero {negative : Bool} {n m : Nat} {e : Int}
    (h : decode (ofMagnitude negative n) = .finite negative m e) (hm : 0 < m) :
    ofMagnitude negative n ≠ -0.0 := by
  have hzero : decode (-0.0) = .finite true 0 (-1074) := by decide +kernel
  intro heq
  rw [heq, hzero] at h
  cases h
  exact lt_irrefl 0 hm

/-- What is written reads back as the same number, except that a zero loses its sign. -/
theorem readNumber?_format (x : Float) :
    readNumber? (format x) = some (if x = -0.0 then 0.0 else x) := by
  unfold format write
  rcases decode_cases x with ⟨hdecode, rfl⟩ | ⟨negative, hdecode, rfl⟩ | ⟨negative, m, e, hdecode, hme, rfl⟩
  · rw [hdecode]
    decide +kernel
  · rw [hdecode]
    cases negative <;> decide +kernel
  · rw [hdecode]
    rcases Nat.eq_zero_or_pos m with rfl | hm
    · obtain rfl : e = -1074 := hme.leading.resolve_right (by omega)
      cases negative <;> decide +kernel
    · simp only
      rw [if_neg hm.ne', if_neg (ofMagnitude_ne_negative_zero hdecode hm)]
      exact (shortest m e).readsAs_plain.readNumber? negative hme hm (shortest_mem hme hm).2

end

/-- **Number text.** A program's conversion accepts, between blanks, the texts of numbers and no other:
of what the library reads it refuses the words that are not spelled `NaN` and `Infinity`. What is printed
for a number reads back as that number, except that a zero loses its sign. -/
theorem number_text :
    (∀ text : String, (readNumber? text).isSome ↔ ∃ before cs after, text.toList = before ++ cs ++ after ∧
      (∀ c ∈ before ++ after, Text.isBlank c) ∧ NumberText cs) ∧
    (∀ text : String, (readNumber? text).isSome ↔
      (readDecimal? (String.ofList (trimBlanks text.toList))).isSome ∧
        ¬ Misspelled (trimBlanks text.toList)) ∧
    ∀ x : Float, readNumber? (format x) = some (if x = -0.0 then 0.0 else x) := by
  refine ⟨fun text => ?_, isSome_readNumber?_iff, readNumber?_format⟩
  rw [isSome_readNumber?]
  constructor
  · obtain ⟨before, after, htext, hblank⟩ := trimBlanks_spec text.toList
    exact fun h => ⟨before, _, after, htext, hblank, h⟩
  · rintro ⟨before, cs, after, htext, hblank, hcs⟩
    rwa [htext, trimBlanks_eq hblank fun c hc => hcs.isBlank hc]

/-- A text is accepted with blanks around it, and with a sign or an exponent. Other spellings of infinity,
two signs, and a mantissa or an exponent without digits are not. -/
example :
    [" 7.\n", "+.5e-3", "-Infinity", "-inf", "--1", "1e", "."].map (fun text => (readNumber? text).isSome) =
      [true, true, true, false, false, false, false] := by
  decide +kernel

end ParLang.Number
