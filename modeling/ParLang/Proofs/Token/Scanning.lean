import ParLang.Token.Lexer

/-!
# What scanning reads

`Scans c ts c'` says that from the place `c` the tokens `ts` are read one after another and that what
is read then is what is read from `c'`. Skipping is not a step of its own: two places that differ by
blanks read the same. The lemmas on single tokens say what must stand behind a token so that it ends
where it should, and `Token.Formed` says what the text of a token that was read can be.
-/

namespace ParLang

/-! ## Characters -/

namespace Text

variable {c : Char}

/-- The blanks one by one. -/
def blankCodes : List Nat :=
  [9, 10, 11, 12, 13, 32, 133, 160, 5760, 8192, 8193, 8194, 8195, 8196, 8197, 8198, 8199, 8200, 8201,
    8202, 8232, 8233, 8239, 8287, 12288]

/-- A blank is one of the characters with a blank's number. -/
theorem mem_blankCodes_of_isBlank (h : isBlank c) : c ∈ blankCodes.map Char.ofNat := by
  have hcode : c.toNat ∈ blankCodes := by
    simp [isBlank, blankRanges, Range.anyContains] at h
    simp only [blankCodes, List.mem_cons, List.not_mem_nil]
    omega
  exact List.mem_map.mpr ⟨c.toNat, hcode, Char.ofNat_toNat c⟩

/-- The digits one by one. -/
def digits : List Char :=
  ['0', '1', '2', '3', '4', '5', '6', '7', '8', '9']

/-- A digit is one of the ten. -/
theorem mem_digits_of_isDigit (h : c.isDigit) : c ∈ digits := by
  have hcode : 48 ≤ c.toNat ∧ c.toNat ≤ 57 := by
    simpa [Char.isDigit, UInt32.le_iff_toNat_le] using h
  have hmem : c ∈ [48, 49, 50, 51, 52, 53, 54, 55, 56, 57].map Char.ofNat := by
    refine List.mem_map.mpr ⟨c.toNat, ?_, Char.ofNat_toNat c⟩
    simp only [List.mem_cons, List.not_mem_nil]
    omega
  exact hmem

/-- A text that a character is pushed on is that many of it. -/
theorem toList_pushn (n : Nat) : ("".pushn c n).toList = List.replicate n c := by
  rw [String.pushn_eq_repeat_push]
  induction n with
  | zero => rfl
  | succ n ih => rw [Nat.repeat, String.toList_push, ih, List.replicate_succ']

end Text

namespace Cursor

variable {c : Char}

/-- The characters that symbols start with. -/
def symbolStarts : List Char :=
  ['(', ')', '[', ']', '{', '}', ',', ':', ';', '.', '=', '<', '>', '!', '&', '|', '+', '-', '*', '/',
    '%']

/-- Characters behind which a word or a number has ended. -/
def separators : List Char :=
  [' ', '\n', '"', '#'] ++ symbolStarts

/-- What the character tables say of the characters that are told apart one by one. -/
theorem tables_agree :
    (Text.blankCodes.map Char.ofNat).any isNameChar = false ∧ Text.digits.any Text.isLetter = false ∧
    Text.digits.all isNameChar ∧ separators.any isNameChar = false := by
  decide +kernel

/-- No character of a name is a blank. -/
theorem isBlank_of_isNameChar (h : isNameChar c) : Text.isBlank c = false := by
  cases hblank : Text.isBlank c with
  | false => rfl
  | true =>
    exact absurd h (List.any_eq_false.mp tables_agree.1 c (Text.mem_blankCodes_of_isBlank hblank))

/-- A letter may stand in a name. -/
theorem isNameChar_of_isLetter (h : Text.isLetter c) : isNameChar c := by
  simp [isNameChar, h]

/-- A digit is no letter. -/
theorem isLetter_of_isDigit (h : c.isDigit) : Text.isLetter c = false :=
  Bool.eq_false_iff.mpr (List.any_eq_false.mp tables_agree.2.1 c (Text.mem_digits_of_isDigit h))

/-- A digit may stand in a name. -/
theorem isNameChar_of_isDigit (h : c.isDigit) : isNameChar c :=
  List.all_eq_true.mp tables_agree.2.2.1 c (Text.mem_digits_of_isDigit h)

/-- A separator stands in no name. -/
theorem isNameChar_separator (h : c ∈ separators) : isNameChar c = false :=
  Bool.eq_false_iff.mpr (List.any_eq_false.mp tables_agree.2.2.2 c h)

/-- Nor is it a letter. -/
theorem isLetter_separator (h : c ∈ separators) : Text.isLetter c = false := by
  cases hletter : Text.isLetter c with
  | false => rfl
  | true => exact absurd (isNameChar_of_isLetter hletter) (by simp [isNameChar_separator h])

/-! ## Skipping -/

variable {cs w rest : List Char} {offset line : Nat}

/-- Where neither a blank nor a comment starts, nothing is skipped. -/
theorem next_of_bare (hhash : c ≠ '#') (hblank : Text.isBlank c = false)
    (hslash : c = '/' → cs.head? ≠ some '*') :
    (⟨c :: cs, offset, line⟩ : Cursor).next = (⟨c :: cs, offset, line⟩ : Cursor).readToken := by
  have hskip : skipTrivia .between (c :: cs) offset line = .reached ⟨c :: cs, offset, line⟩ := by
    rw [skipTrivia]
    · rw [if_neg hhash, if_neg (by simp [hblank])]
    · rintro rest rfl rfl
      exact hslash rfl rfl
  rw [next, hskip]

/-- In front of a character of a name nothing is skipped. -/
theorem next_of_isNameChar (h : isNameChar c) :
    (⟨c :: cs, offset, line⟩ : Cursor).next = (⟨c :: cs, offset, line⟩ : Cursor).readToken := by
  have hne : ∀ b ∈ separators, c ≠ b := by
    rintro _ hb rfl
    rw [isNameChar_separator hb] at h
    cases h
  refine next_of_bare (hne '#' (by decide)) (isBlank_of_isNameChar h) ?_
  exact fun hslash => absurd hslash (hne '/' (by decide))

/-- A blank makes no difference. -/
theorem next_blank {b : Char} (h : Text.isBlank b) :
    (⟨b :: rest, offset, line⟩ : Cursor).next =
      (⟨rest, offset + b.utf8Size, if b = '\n' then line + 1 else line⟩ : Cursor).next := by
  have hhash : b ≠ '#' := by rintro rfl; exact absurd h (by decide)
  have hslash : b ≠ '/' := by rintro rfl; exact absurd h (by decide)
  rw [next, next, skipTrivia]
  · rw [if_neg hhash, if_pos h]
  · rintro rest rfl
    exact absurd rfl hslash

/-! ## Single tokens -/

/-- Behind the characters `cs`, where `rest` follows, the token of this kind and text ends. -/
def Spells (cs : List Char) (kind : Token.Kind) (text : String) (rest : List Char) : Prop :=
  ∀ offset line, ∃ t c', (⟨cs ++ rest, offset, line⟩ : Cursor).next = (.ok t, c') ∧ t.kind = kind ∧
    t.lexeme = text ∧ c'.rest = rest

/-- No character of a name is next. -/
def Apart (rest : List Char) : Prop :=
  ∀ c ∈ rest.head?, isNameChar c = false

/-- A letter with characters of a name behind it. -/
def IsWord (w : List Char) : Prop :=
  ∃ c cs, w = c :: cs ∧ Text.isLetter c ∧ ∀ d ∈ cs, isNameChar d

/-- `IsWord` by calculation. -/
def isWord : List Char → Bool
  | [] => false
  | c :: cs => Text.isLetter c && cs.all isNameChar

/-- Whether characters are a word can be computed. -/
theorem isWord_iff : isWord w ↔ IsWord w := by
  cases w with
  | nil =>
    constructor
    · nofun
    · rintro ⟨c, cs, h, -⟩; cases h
  | cons c cs =>
    simp only [isWord, Bool.and_eq_true, List.all_eq_true]
    constructor
    · rintro ⟨hc, hcs⟩; exact ⟨c, cs, rfl, hc, hcs⟩
    · rintro ⟨c', cs', heq, hc, hcs⟩; cases heq; exact ⟨hc, hcs⟩

/-- All of a run of characters is taken if another kind of character follows, or none. -/
theorem takeWhile_append_of_stop {p : Char → Bool} (hw : ∀ c ∈ w, p c)
    (hrest : ∀ c ∈ rest.head?, p c = false) : (w ++ rest).takeWhile p = w := by
  rw [List.takeWhile_append_of_pos hw]
  cases rest with
  | nil => simp
  | cons c _ => simp [hrest c rfl]

/-- What follows the run is left. -/
theorem dropWhile_append_of_stop {p : Char → Bool} (hw : ∀ c ∈ w, p c)
    (hrest : ∀ c ∈ rest.head?, p c = false) : (w ++ rest).dropWhile p = rest := by
  rw [List.dropWhile_append_of_pos hw]
  cases rest with
  | nil => simp
  | cons c _ => simp [hrest c rfl]

/-- The characters of a word are those of names. -/
theorem IsWord.isNameChar (h : IsWord w) : ∀ c ∈ w, isNameChar c := by
  obtain ⟨c, cs, rfl, hc, hcs⟩ := h
  intro d hd
  rcases List.mem_cons.mp hd with rfl | hd
  · exact isNameChar_of_isLetter hc
  · exact hcs d hd

/-- A word is read as the token for it, where it ends. -/
theorem IsWord.spells (h : IsWord w) (hrest : Apart rest) :
    Spells w ((Token.Kind.keyword? (String.ofList w)).getD .identifier) (String.ofList w) rest := by
  intro offset line
  have hchars := h.isNameChar
  have htake := takeWhile_append_of_stop hchars hrest
  have hdrop := dropWhile_append_of_stop hchars hrest
  obtain ⟨c, cs, rfl, hc, hcs⟩ := h
  have hnext : (⟨c :: cs ++ rest, offset, line⟩ : Cursor).next =
      (.ok (word ⟨c :: cs ++ rest, offset, line⟩).1, (word ⟨c :: cs ++ rest, offset, line⟩).2) := by
    rw [List.cons_append, next_of_isNameChar (isNameChar_of_isLetter hc), readToken]
    dsimp only
    rw [if_pos hc]
  refine ⟨_, _, hnext, ?_, ?_, hdrop⟩ <;> simp only [word, htake, token]

/-- A run of decimal digits, not empty. -/
def IsDigits (ds : List Char) : Prop :=
  ds ≠ [] ∧ ∀ d ∈ ds, d.isDigit

/-- Digits, with at most one point between them. -/
def IsDecimal (cs : List Char) : Prop :=
  IsDigits cs ∨ ∃ ds fs, IsDigits ds ∧ IsDigits fs ∧ cs = ds ++ '.' :: fs

/-- Digits are taken as a whole. -/
theorem IsDigits.takeWhile (h : IsDigits w) : w.takeWhile Char.isDigit = w := by
  have hall : (w ++ []).takeWhile Char.isDigit = w := takeWhile_append_of_stop h.2 nofun
  rwa [List.append_nil] at hall

/-- Nothing of them is left. -/
theorem IsDigits.dropWhile (h : IsDigits w) : w.dropWhile Char.isDigit = [] := by
  have hall : (w ++ []).dropWhile Char.isDigit = [] := dropWhile_append_of_stop h.2 nofun
  rwa [List.append_nil] at hall

/-- What keeps words apart does not start with a digit. -/
theorem Apart.isDigit (h : Apart rest) : ∀ c ∈ rest.head?, c.isDigit = false := by
  intro c hc
  cases hdigit : c.isDigit with
  | false => rfl
  | true => exact absurd (isNameChar_of_isDigit hdigit) (by simp [h c hc])

/-- Digits are read as a number, where they end. -/
theorem IsDigits.spells (h : IsDigits w) (hrest : ∀ c ∈ rest.head?, c.isDigit = false) :
    Spells w .number (String.ofList w) rest := by
  intro offset line
  have htake := takeWhile_append_of_stop h.2 hrest
  have hdrop := dropWhile_append_of_stop h.2 hrest
  obtain ⟨c, cs, rfl⟩ := List.exists_cons_of_ne_nil h.1
  have hc : c.isDigit := h.2 c List.mem_cons_self
  have hnext : (⟨c :: cs ++ rest, offset, line⟩ : Cursor).next =
      (.ok (number ⟨c :: cs ++ rest, offset, line⟩).1,
        (number ⟨c :: cs ++ rest, offset, line⟩).2) := by
    rw [List.cons_append, next_of_isNameChar (isNameChar_of_isDigit hc), readToken]
    dsimp only
    rw [if_neg (by simp [isLetter_of_isDigit hc]), if_pos hc]
  refine ⟨_, _, hnext, rfl, ?_, hdrop⟩
  simp only [number, htake, token]

/-- A text in quotes is read as a string. -/
theorem spells_string (h : '"' ∉ w) : Spells ('"' :: (w ++ ['"'])) .string (String.ofList w) rest := by
  intro offset line
  have hw : ∀ c ∈ w, (c != '"') = true := fun c hc => by
    simp only [bne_iff_ne]
    rintro rfl
    exact h hc
  have hstop : ∀ c ∈ ('"' :: rest).head?, (c != '"') = false := by rintro _ ⟨⟩; rfl
  have htake := takeWhile_append_of_stop hw hstop
  have hdrop := dropWhile_append_of_stop hw hstop
  have hnext : (⟨'"' :: (w ++ '"' :: rest), offset, line⟩ : Cursor).next =
      text ⟨'"' :: (w ++ '"' :: rest), offset, line⟩ (w ++ '"' :: rest) := by
    rw [next_of_bare (by decide) (by decide) (fun h => absurd h (by decide)), readToken]
    dsimp only
    have hletter : Text.isLetter '"' = false := isLetter_separator (by decide)
    rw [if_neg (by simp [hletter]), if_neg (by decide), if_pos rfl]
  rw [text, hdrop, htake] at hnext
  rw [List.cons_append, List.append_assoc, List.singleton_append]
  exact ⟨_, _, hnext, rfl, rfl, rfl⟩

/-- A character that starts a symbol, and neither a word, a number, a string nor anything skipped. -/
def isMark (c : Char) : Bool :=
  !Text.isLetter c && !c.isDigit && c != '"' && c != '#' && !Text.isBlank c

/-- What starts a symbol is no letter, no digit, no quote, no blank and no mark of a comment. -/
theorem isMark_symbolStart (h : c ∈ symbolStarts) : isMark c := by
  have hletter : Text.isLetter c = false := isLetter_separator (List.mem_append_right _ h)
  have hrest : symbolStarts.all
      fun c => !c.isDigit && c != '"' && c != '#' && !Text.isBlank c := by decide
  have hc := List.all_eq_true.mp hrest c h
  simp only [Bool.and_eq_true] at hc
  simp only [isMark, hletter, Bool.not_false, Bool.true_and, Bool.and_eq_true]
  exact hc

/-- A symbol is read as the longest one that is there. -/
theorem spells_symbol {kind : Token.Kind} {taken : List Char} (hmark : isMark c)
    (hslash : c = '/' → (cs ++ rest).head? ≠ some '*')
    (h : symbol? c (cs ++ rest) = some (kind, taken, rest)) :
    Spells (c :: cs) kind (String.ofList taken) rest := by
  intro offset line
  simp only [isMark, Bool.and_eq_true, Bool.not_eq_true', bne_iff_ne] at hmark
  obtain ⟨⟨⟨⟨hletter, hdigit⟩, hquote⟩, hhash⟩, hblank⟩ := hmark
  have hnext : (⟨c :: cs ++ rest, offset, line⟩ : Cursor).next =
      (.ok (token ⟨c :: cs ++ rest, offset, line⟩ kind taken),
        past ⟨c :: cs ++ rest, offset, line⟩ taken rest) := by
    rw [List.cons_append, next_of_bare hhash hblank hslash, readToken]
    dsimp only
    rw [if_neg (by simp [hletter]), if_neg (by simp [hdigit]), if_neg hquote, h]
  exact ⟨_, _, hnext, rfl, rfl, rfl⟩

/-! ## What a token can be -/

/-- The kind, the text and the characters of a token. -/
inductive Spelled : Token.Kind → String → List Char → Prop where
  | word {w : List Char} (h : IsWord w) :
      Spelled ((Token.Kind.keyword? (String.ofList w)).getD .identifier) (String.ofList w) w
  | number {w : List Char} (h : IsDigits w) : Spelled .number (String.ofList w) w
  | string {w : List Char} (h : '"' ∉ w) : Spelled .string (String.ofList w) ('"' :: (w ++ ['"']))
  | symbol {c : Char} {cs : List Char} {kind taken rest}
      (h : symbol? c cs = some (kind, taken, rest)) : Spelled kind (String.ofList taken) taken

/-- What is read as a symbol is one or two characters of the source, and is none of the kinds that carry a
text. -/
theorem symbol?_inv {kind : Token.Kind} {taken : List Char}
    (h : symbol? c cs = some (kind, taken, rest)) : c :: cs = taken ++ rest ∧ taken ≠ [] ∧
      kind ∉ [.identifier, .number, .string, .typeName, .eof] := by
  unfold symbol? at h
  dsimp only at h
  split at h
  all_goals try split at h
  all_goals try split at h
  all_goals
    simp only [Option.map_some, Option.map_none, Option.some.injEq, Prod.mk.injEq, reduceCtorEq] at h
  all_goals
    obtain ⟨rfl, rfl, rfl⟩ := h
    exact ⟨rfl, List.cons_ne_nil _ _, by decide⟩

/-- What is taken as long as a test holds passes the test. -/
theorem of_mem_takeWhile {p : Char → Bool} (h : c ∈ cs.takeWhile p) : p c :=
  List.all_eq_true.mp (List.all_takeWhile ..) c h

/-- A token is spelled with a character at least. -/
theorem Spelled.length_pos {kind : Token.Kind} {text : String} (h : Spelled kind text cs) :
    0 < cs.length := by
  cases h with
  | word h => obtain ⟨c, cs, rfl, -⟩ := h; exact Nat.succ_pos _
  | number h => exact List.length_pos_iff.mpr h.1
  | string => exact Nat.succ_pos _
  | symbol h => exact List.length_pos_iff.mpr (symbol?_inv h).2.1

/-- The end of a text reads as the end token. -/
theorem readToken_of_nil {cur cur' : Cursor} {t : Token} (h : cur.readToken = (.ok t, cur'))
    (hrest : cur.rest = []) : t = cur.token .eof [] ∧ cur' = cur := by
  rw [readToken, hrest] at h
  cases h
  exact ⟨rfl, rfl⟩

/-- A token that was read is spelled by the characters that were taken, and reading goes on behind
them. -/
theorem spelled_of_readToken {cur cur' : Cursor} {t : Token} (h : cur.readToken = (.ok t, cur'))
    (hne : cur.rest ≠ []) : ∃ taken, cur.rest = taken ++ cur'.rest ∧ Spelled t.kind t.lexeme taken ∧
      cur' = cur.past taken cur'.rest ∧ t.line = cur.line ∧ t.span = ⟨cur.offset, cur'.offset⟩ := by
  obtain ⟨cs, offset, line⟩ := cur
  rw [readToken] at h
  cases cs with
  | nil => exact absurd rfl hne
  | cons c cs =>
    dsimp only at h
    split at h
    · next hletter =>
      cases h
      refine ⟨(c :: cs).takeWhile isNameChar, (List.takeWhile_append_dropWhile ..).symm, ?_⟩
      refine ⟨.word ⟨c, cs.takeWhile isNameChar, ?_, hletter, fun d => of_mem_takeWhile⟩, rfl, rfl, rfl⟩
      rw [List.takeWhile_cons, if_pos (isNameChar_of_isLetter hletter)]
    · split at h
      · next hdigit =>
        cases h
        refine ⟨(c :: cs).takeWhile Char.isDigit, (List.takeWhile_append_dropWhile ..).symm, ?_⟩
        refine ⟨.number ⟨?_, fun d => of_mem_takeWhile⟩, rfl, rfl, rfl⟩
        rw [List.takeWhile_cons, if_pos hdigit]
        exact List.cons_ne_nil _ _
      · split at h
        · next hquote =>
          subst hquote
          rw [text] at h
          split at h
          · cases h
          · next quote rest hrest =>
            cases h
            have hmark : quote = '"' := by
              have := List.head?_dropWhile_not (· != '"') cs
              rw [hrest] at this
              simpa using this
            subst hmark
            refine ⟨'"' :: (cs.takeWhile (· != '"') ++ ['"']), ?_, .string fun hmem => ?_, rfl, rfl, rfl⟩
            · have hsplit := List.takeWhile_append_dropWhile (p := (· != '"')) (l := cs)
              rw [hrest] at hsplit
              simp only [past, List.cons_append, List.append_assoc, List.nil_append, hsplit]
            · simpa using of_mem_takeWhile hmem
        · split at h
          · next kind taken rest hsymbol =>
            cases h
            exact ⟨taken, (symbol?_inv hsymbol).1, .symbol hsymbol, rfl, rfl, rfl⟩
          · cases h

/-- A keyword is the name of a type or one of the reserved words. -/
theorem keyword?_eq_some {w : String} {kind : Token.Kind} (h : Token.Kind.keyword? w = some kind) :
    kind = .typeName ∧ w ∈ Token.Kind.typeWords ∨ kind ∈ Token.Kind.reserved := by
  rw [Token.Kind.keyword?] at h
  split at h
  · next hword => exact .inl ⟨(Option.some.inj h).symm, List.contains_iff_mem.mp hword⟩
  · exact .inr (List.mem_of_find?_eq_some h)

end Cursor

/-- What the texts of the tokens without a fixed spelling can be. -/
structure Token.Formed (t : Token) : Prop where
  identifier : t.kind = .identifier →
    Cursor.IsWord t.lexeme.toList ∧ Token.Kind.keyword? t.lexeme = none
  number : t.kind = .number → Cursor.IsDigits t.lexeme.toList
  string : t.kind = .string → '"' ∉ t.lexeme.toList
  typeName : t.kind = .typeName → t.lexeme ∈ Token.Kind.typeWords

namespace Cursor

variable {c : Char} {cs : List Char}

/-- A token of a kind with a fixed spelling is always formed. -/
theorem formed_of_kind {t : Token} (h : t.kind ∉ [.identifier, .number, .string, .typeName]) :
    t.Formed := by
  simp only [List.mem_cons, List.not_mem_nil, or_false, not_or] at h
  exact ⟨fun h' => absurd h' h.1, fun h' => absurd h' h.2.1, fun h' => absurd h' h.2.2.1,
    fun h' => absurd h' h.2.2.2⟩

/-- A token that is spelled is formed. -/
theorem Spelled.formed {t : Token} {kind : Token.Kind} {text : String} (h : Spelled kind text cs)
    (hkind : t.kind = kind) (htext : t.lexeme = text) : t.Formed := by
  cases h with
  | word h =>
    rw [← htext] at hkind
    cases hword : Token.Kind.keyword? t.lexeme with
    | none =>
      rw [hword, Option.getD_none] at hkind
      refine ⟨fun _ => ⟨?_, hword⟩, ?_, ?_, ?_⟩
      · rw [htext, String.toList_ofList]; exact h
      all_goals rw [hkind]; nofun
    | some kind =>
      rw [hword, Option.getD_some] at hkind
      rcases keyword?_eq_some hword with ⟨rfl, hmem⟩ | hmem
      · refine ⟨?_, ?_, ?_, fun _ => hmem⟩ <;> rw [hkind] <;> nofun
      · refine formed_of_kind ?_
        rw [hkind]
        revert hmem
        cases kind <;> decide
  | number h =>
    refine ⟨?_, fun _ => ?_, ?_, ?_⟩
    · rw [hkind]; nofun
    · rw [htext, String.toList_ofList]; exact h
    all_goals rw [hkind]; nofun
  | string h =>
    refine ⟨?_, ?_, fun _ => ?_, ?_⟩
    · rw [hkind]; nofun
    · rw [hkind]; nofun
    · rw [htext, String.toList_ofList]; exact h
    · rw [hkind]; nofun
  | symbol h =>
    refine formed_of_kind fun hmem => (symbol?_inv h).2.2 ?_
    rw [hkind] at hmem
    exact List.mem_append_left [.eof] hmem

/-! ## Runs -/

/-- From the first place the tokens are read, and then what is read from the second. -/
inductive Scans : Cursor → List Token → Cursor → Prop where
  | done {c c'} (h : c.next = c'.next) : Scans c [] c'
  | read {c t c₁ ts c'} (h : c.next = (.ok t, c₁)) (ht : t.kind ≠ .eof) (hrest : Scans c₁ ts c') :
      Scans c (t :: ts) c'

variable {c c' c₁ : Cursor} {ts us : List Token} {t : Token}

/-- From where the next token is the same, so are the others. -/
theorem Scans.of_next_eq (h : c.next = c₁.next) (hscans : Scans c₁ ts c') : Scans c ts c' := by
  cases hscans with
  | done h' => exact .done (h.trans h')
  | read h' ht hrest => exact .read (h.trans h') ht hrest

/-- Runs of tokens follow one another. -/
theorem Scans.append (h : Scans c ts c₁) (h' : Scans c₁ us c') : Scans c (ts ++ us) c' := by
  induction h with
  | done h => exact h'.of_next_eq h
  | read h ht _ ih => exact .read h ht (ih h')

/-- Trivia leave no more than there was. -/
theorem length_le_of_skipTrivia {state : TriviaState} {cs : List Char} {offset line : Nat}
    (h : skipTrivia state cs offset line = .reached c) : c.rest.length ≤ cs.length := by
  fun_induction skipTrivia state cs offset line <;> grind

/-- A token leaves less than there was. -/
theorem length_lt_of_readToken (h : c.readToken = (.ok t, c')) (ht : t.kind ≠ .eof) :
    c'.rest.length < c.rest.length := by
  have hne : c.rest ≠ [] := fun hnil => ht (by rw [(readToken_of_nil h hnil).1]; rfl)
  obtain ⟨taken, hrest, hspelled, -⟩ := spelled_of_readToken h hne
  rw [hrest, List.length_append]
  have := hspelled.length_pos
  omega

/-- So does a call, unless it comes to the end. -/
theorem length_lt_of_next (h : c.next = (.ok t, c')) (ht : t.kind ≠ .eof) :
    c'.rest.length < c.rest.length := by
  rw [next] at h
  split at h
  · cases h
  · next place hplace =>
    exact Nat.lt_of_lt_of_le (length_lt_of_readToken h ht) (length_le_of_skipTrivia hplace)

/-- A token takes at least one character. -/
theorem Scans.length_le (h : Scans c ts c') : ts.length ≤ c.rest.length := by
  induction h with
  | done => exact Nat.zero_le _
  | read h ht _ ih => exact Nat.lt_of_le_of_lt ih (length_lt_of_next h ht)

/-- Every token that is read is formed. -/
theorem formed_of_next (h : c.next = (.ok t, c')) : t.Formed := by
  rw [next] at h
  split at h
  · cases h
  · next place _ =>
    by_cases hne : place.rest = []
    · have heof : t.kind = .eof := by rw [(readToken_of_nil h hne).1]; rfl
      exact formed_of_kind (by rw [heof]; decide)
    · obtain ⟨taken, -, hspelled, -⟩ := spelled_of_readToken h hne
      exact hspelled.formed rfl rfl

/-- Every token of a run is formed. -/
theorem formed_of_mem_results {n : Nat} (h : .ok t ∈ results n c) : t.Formed := by
  induction n generalizing c with
  | zero => cases h
  | succ n ih =>
    rw [results] at h
    split at h
    · next t' c' hnext =>
      split at h
      · obtain rfl := Except.ok.inj (List.mem_singleton.mp h)
        exact formed_of_next hnext
      · rcases List.mem_cons.mp h with h | h
        · obtain rfl := Except.ok.inj h
          exact formed_of_next hnext
        · exact ih h
    · rcases List.mem_cons.mp h with h | h
      · cases h
      · exact ih h

/-- The results are the tokens and the end token, if there are calls enough. -/
theorem Scans.results {e : Token} {c'' : Cursor} (h : Scans c ts c') (hend : c'.next = (.ok e, c''))
    (he : e.kind = .eof) : ∀ {n}, ts.length < n → results n c = (ts ++ [e]).map .ok := by
  induction h with
  | done h =>
    intro n hn
    obtain ⟨n, rfl⟩ : ∃ i, n = i + 1 := ⟨n - 1, by omega⟩
    rw [Cursor.results, h, hend]
    dsimp only
    rw [if_pos he]
    rfl
  | read h ht _ ih =>
    intro n hn
    obtain ⟨n, rfl⟩ : ∃ i, n = i + 1 := ⟨n - 1, by omega⟩
    rw [Cursor.results, h]
    dsimp only
    rw [if_neg ht, ih hend (by simpa using hn)]
    rfl

/-- At the end of a text the end token is read, again and again. -/
theorem next_of_nil (h : c.rest = []) : c.next = (.ok (c.token .eof []), c) := by
  obtain ⟨rest, offset, line⟩ := c
  obtain rfl : rest = [] := h
  rw [next, skipTrivia]
  rfl

/-- A text that is read to its end scans to the tokens that were read, with an end token behind. -/
theorem Scans.scan {source : String} (h : Scans (.ofString source) ts c') (hend : c'.rest = []) :
    ∃ e, e.kind = .eof ∧ scan source = (ts ++ [e]).map .ok :=
  ⟨_, rfl, h.results (next_of_nil hend) rfl (Nat.lt_succ_of_le h.length_le)⟩

end Cursor

end ParLang
