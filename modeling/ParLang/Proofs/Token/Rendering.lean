import ParLang.Proofs.Printing.Writes
import ParLang.Proofs.Token.Trivia

/-!
# Reading what is written

A list of tokens, each given by its kind and its text, can be written in many ways: any blanks and
comments may stand between two of them, in front of the first and behind the last. `tokens_render` says
that each of these texts is read as the tokens that were written. A token needs nothing but a gap behind
it to end where it should (`Cursor.Gapped`).
-/

namespace ParLang

namespace Token.Kind

/-- A token of the kind can have the text. -/
def Admits : Kind → String → Prop
  | .identifier, text => Cursor.IsWord text.toList ∧ keyword? text = none
  | .number, text => Cursor.IsDigits text.toList
  | .string, text => '"' ∉ text.toList
  | .typeName, text => text ∈ typeWords
  | kind, text => kind.spelling? = some text

/-- A token of the kind and the text as it is written: a string stands in quotes. -/
def written (kind : Kind) (text : String) : List Char :=
  if kind = .string then '"' :: (text.toList ++ ['"']) else text.toList

end Token.Kind

namespace Cursor

variable {gap rest : List Char} {kind : Token.Kind} {text : String} {c : Char}

/-! ## Ends of tokens -/

/-- Nothing follows, or what follows starts like a gap. -/
def Gapped (rest : List Char) : Prop :=
  ∀ c ∈ rest.head?, Text.isBlank c ∨ c = '#' ∨ c = '/'

/-- Trivia keep tokens apart. -/
theorem gapped_of_trivia (h : Trivia False gap) (hne : gap ≠ []) (rest : List Char) :
    Gapped (gap ++ rest) := by
  cases h with
  | nil => exact absurd rfl hne
  | blank hc _ => rintro _ ⟨⟩; exact .inl hc
  | lineComment _ _ => rintro _ ⟨⟩; exact .inr (.inl rfl)
  | lastComment hend _ => exact hend.elim
  | blockComment _ _ => rintro _ ⟨⟩; exact .inr (.inr rfl)

/-- What keeps tokens apart keeps words apart. -/
theorem Gapped.apart (h : Gapped rest) : Apart rest := by
  intro c hc
  rcases h c hc with hblank | rfl | rfl
  · cases hname : isNameChar c with
    | false => rfl
    | true => rw [isBlank_of_isNameChar hname] at hblank; cases hblank
  · exact isNameChar_separator (by decide)
  · exact isNameChar_separator (by decide)

/-- The second characters of symbols do not start a gap. -/
theorem Gapped.ne_second (h : Gapped (c :: rest)) {d : Char} (hd : d ∈ ['>', '=', '&', '|', '*']) :
    c ≠ d := by
  rintro rfl
  have hnone : ['>', '=', '&', '|', '*'].any
      (fun c => Text.isBlank c || c == '#' || c == '/') = false := by decide
  have hc := List.any_eq_false.mp hnone c hd
  simp only [Bool.or_eq_true, beq_iff_eq, or_assoc] at hc
  exact hc (h c rfl)

/-- Before a gap, a symbol of one character that also begins a longer one stands alone. -/
theorem symbol?_alone (h : (c, kind) ∈ [('-', .minus), ('=', .assign), ('!', .bang), ('>', .greater),
    ('<', .less)]) (hgap : Gapped rest) : symbol? c rest = some (kind, [c], rest) := by
  simp only [List.mem_cons, Prod.mk.injEq, List.not_mem_nil, or_false] at h
  cases rest with
  | nil => rcases h with ⟨rfl, rfl⟩ | ⟨rfl, rfl⟩ | ⟨rfl, rfl⟩ | ⟨rfl, rfl⟩ | ⟨rfl, rfl⟩ <;> rfl
  | cons d rest =>
    have hgreater : d ≠ '>' := hgap.ne_second (by decide)
    have hequal : d ≠ '=' := hgap.ne_second (by decide)
    rcases h with ⟨rfl, rfl⟩ | ⟨rfl, rfl⟩ | ⟨rfl, rfl⟩ | ⟨rfl, rfl⟩ | ⟨rfl, rfl⟩
    · exact if_neg hgreater
    all_goals exact if_neg hequal

/-- Before a gap a symbol is read to its end and no further. -/
theorem symbol?_of_gapped (hsymbol : kind ∉ Token.Kind.reserved) (hkind : kind.spelling? = some text)
    (hgap : Gapped rest) : ∃ c cs, text.toList = c :: cs ∧ c ∈ symbolStarts ∧
      (c = '/' → (cs ++ rest).head? ≠ some '*') ∧
      symbol? c (cs ++ rest) = some (kind, c :: cs, rest) := by
  cases kind
  case identifier | number | string | typeName | eof => cases hkind
  case slash =>
    cases hkind
    refine ⟨'/', [], rfl, by decide, fun _ hstar => ?_, rfl⟩
    obtain ⟨rest, rfl⟩ := List.head?_eq_some_iff.mp hstar
    exact hgap.ne_second (by decide) rfl
  case minus | assign | bang | greater | less =>
    cases hkind
    exact ⟨_, _, rfl, by decide, fun h => absurd h (by decide), symbol?_alone (by decide) hgap⟩
  case plus | star | percent | equal | notEqual | greaterEqual | lessEqual | conj | disj | colon |
      comma | arrow | dot | semicolon | leftParen | rightParen | leftBrace | rightBrace | leftBracket |
      rightBracket =>
    cases hkind
    exact ⟨_, _, rfl, by decide, fun h => absurd h (by decide), rfl⟩
  all_goals exact absurd (by decide) hsymbol

/-- **A token before a gap is read as it was written.** -/
theorem spells_written (h : kind.Admits text) (hgap : Gapped rest) :
    Spells (kind.written text) kind text rest := by
  have hapart := hgap.apart
  have hword : ∀ {k}, IsWord text.toList → (Token.Kind.keyword? text).getD .identifier = k →
      Spells text.toList k text rest := by
    rintro _ hw rfl
    simpa using hw.spells hapart
  have hfixed : kind.spelling? = some text → kind ≠ .string →
      Spells (kind.written text) kind text rest := by
    intro hspelling hstring
    rw [Token.Kind.written, if_neg hstring]
    by_cases hreserved : kind ∈ Token.Kind.reserved
    · obtain ⟨hw, hkeyword⟩ := Printing.Writes.isWord_reserved kind hreserved text hspelling
      exact hword (isWord_iff.mp hw) (by rw [hkeyword]; rfl)
    · obtain ⟨c, cs, htext, hc, hslash, hsymbol⟩ := symbol?_of_gapped hreserved hspelling hgap
      have hspells := spells_symbol (isMark_symbolStart hc) hslash hsymbol
      rwa [← htext, String.ofList_toList] at hspells
  cases kind
  case identifier => exact hword h.1 (by rw [h.2]; rfl)
  case number =>
    have hspells := IsDigits.spells h hapart.isDigit
    rw [String.ofList_toList] at hspells
    exact hspells
  case string =>
    have hspells : Spells _ _ _ rest := spells_string h
    rw [String.ofList_toList] at hspells
    exact hspells
  case typeName =>
    have hwords : ∀ w ∈ Token.Kind.typeWords, isWord w.toList ∧
        Token.Kind.keyword? w = some .typeName := by decide +kernel
    obtain ⟨hw, hkeyword⟩ := hwords text h
    exact hword (isWord_iff.mp hw) (by rw [hkeyword]; rfl)
  all_goals exact hfixed h (by decide)

end Cursor

/-! ## Whole texts -/

/-- A token to be written, with the blanks and comments behind it. -/
structure Token.Piece where
  kind : Token.Kind
  text : String
  gap : List Char
  admits : kind.Admits text
  trivia : Trivia False gap

/-- The characters of a piece. -/
def Token.Piece.written (p : Token.Piece) : List Char :=
  p.kind.written p.text ++ p.gap

/-- The text of the pieces, with `lead` in front of the first. -/
def Token.render (lead : List Char) (pieces : List Token.Piece) : String :=
  String.ofList (lead ++ pieces.flatMap Token.Piece.written)

/-- The pieces are read one after another, where each but the last has a gap behind it. -/
theorem Cursor.scans_pieces (pieces : List Token.Piece) (hgaps : ∀ p ∈ pieces.dropLast, p.gap ≠ [])
    (offset line : Nat) :
    ∃ ts c, Scans ⟨pieces.flatMap Token.Piece.written, offset, line⟩ ts c ∧ c.rest = [] ∧
      ts.map (fun t => (t.kind, t.lexeme)) = pieces.map (fun p => (p.kind, p.text)) := by
  induction pieces generalizing offset line with
  | nil => exact ⟨[], ⟨[], offset, line⟩, .done rfl, rfl, rfl⟩
  | cons p pieces ih =>
    have hgap : Gapped (p.gap ++ pieces.flatMap Token.Piece.written) := by
      by_cases hne : p.gap = []
      · cases pieces with
        | nil => rw [hne]; nofun
        | cons q pieces => exact absurd hne (hgaps p List.mem_cons_self)
      · exact gapped_of_trivia p.trivia hne _
    have hrest : ∀ q ∈ pieces.dropLast, q.gap ≠ [] := by
      intro q hq
      cases pieces with
      | nil => cases hq
      | cons r pieces => exact hgaps q (List.mem_cons_of_mem _ hq)
    obtain ⟨t, ⟨_, offset₁, line₁⟩, hnext, hkind, htext, rfl⟩ :=
      spells_written p.admits hgap offset line
    obtain ⟨ts, c, hscans, hend, hts⟩ := ih hrest (offset₁ + byteLength p.gap)
      (line₁ + p.gap.count '\n')
    refine ⟨t :: ts, c, ?_, hend, by simp [hkind, htext, hts]⟩
    have heof : t.kind ≠ .eof := by
      intro heof
      have hadmits := p.admits
      rw [← hkind, heof] at hadmits
      cases hadmits
    rw [List.flatMap_cons, Token.Piece.written, List.append_assoc]
    exact .read hnext heof (hscans.of_next_eq (next_trivia p.trivia ..))

/-- Tokens have no fault among them. -/
theorem firstFault_map_ok (ts : List Token) : firstFault (ts.map .ok) = .ok ts := by
  induction ts with
  | nil => rfl
  | cons t ts ih => rw [List.map_cons, firstFault, ih]; rfl

/-- **Every way to write a list of tokens is read as that list.** Each token but the last needs a gap
behind it, and beyond that the blanks and comments are free. -/
theorem tokens_render {lead : List Char} (hlead : Trivia False lead) (pieces : List Token.Piece)
    (hgaps : ∀ p ∈ pieces.dropLast, p.gap ≠ []) :
    ∃ ts e, tokens (Token.render lead pieces) = .ok (ts ++ [e]) ∧ e.kind = .eof ∧
      ts.map (fun t => (t.kind, t.lexeme)) = pieces.map (fun p => (p.kind, p.text)) := by
  obtain ⟨ts, c, hscans, hend, hts⟩ := Cursor.scans_pieces pieces hgaps (0 + byteLength lead)
    (1 + lead.count '\n')
  have hrun : Cursor.Scans (.ofString (Token.render lead pieces)) ts c := by
    rw [Cursor.ofString, Token.render, String.toList_ofList]
    exact hscans.of_next_eq (Cursor.next_trivia hlead ..)
  obtain ⟨e, he, hscan⟩ := hrun.scan hend
  exact ⟨ts, e, by rw [tokens, hscan, firstFault_map_ok], he, hts⟩

/-- A comment keeps a minus and a greater sign apart, and one that follows a slash at once leaves the
slash a token. -/
theorem tokens_render_minus_greater_slash :
    ∃ ts e, tokens "\t-/*>*/> //**/" = .ok (ts ++ [e]) ∧ e.kind = .eof ∧
      ts.map (fun t => (t.kind, t.lexeme)) = [(.minus, "-"), (.greater, ">"), (.slash, "/")] := by
  obtain ⟨ts, e, htokens, he, hts⟩ := tokens_render (@Trivia.blank _ '\t' [] (by decide) .nil)
    [⟨.minus, "-", ['/', '*', '>', '*', '/'], rfl, @Trivia.blockComment _ ['>'] [] (by decide) .nil⟩,
      ⟨.greater, ">", [' '], rfl, .blank (by decide) .nil⟩,
      ⟨.slash, "/", ['/', '*', '*', '/'], rfl, @Trivia.blockComment _ [] [] (by decide) .nil⟩]
    (by decide)
  refine ⟨ts, e, (congrArg tokens ?_).trans htokens, he, hts⟩
  decide +kernel

end ParLang
