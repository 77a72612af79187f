import ParLang.Proofs.Grammar.Basic
import ParLang.Proofs.Token.Scanning

/-!
# Written pieces

A text is written piece by piece, and `Writes D cs rest` says of one piece what it is read as: the
characters `cs`, where `rest` follows, scan to tokens that satisfy `D`. Pieces are joined by
`Writes.append`; what must follow a piece so that its last token ends there is a hypothesis on `rest`.
-/

namespace ParLang

namespace Printing

open Cursor

/-- Before `rest`, the characters scan to tokens with the property. -/
def Writes (D : List Token → Prop) (cs rest : List Char) : Prop :=
  ∀ offset line, ∃ ts c', D ts ∧ c'.rest = rest ∧ Scans ⟨cs ++ rest, offset, line⟩ ts c'

/-- A single token of the kind and text. -/
def One (kind : Token.Kind) (text : String) (ts : List Token) : Prop :=
  ∃ t, ts = [t] ∧ t.kind = kind ∧ t.lexeme = text

/-- A single token of the kind. -/
def Sole (kind : Token.Kind) (ts : List Token) : Prop :=
  ∃ t, ts = [t] ∧ t.kind = kind

/-- Tokens of the first sort with tokens of the second behind them. -/
def Both (D E : List Token → Prop) (ts : List Token) : Prop :=
  ∃ us vs, ts = us ++ vs ∧ D us ∧ E vs

variable {D E : List Token → Prop} {cs ds rest : List Char} {kind : Token.Kind} {text : String}

/-- A character that goes on with no word keeps words apart. -/
theorem apart_cons {c : Char} (h : isNameChar c = false) : Apart (c :: rest) := by
  rintro _ ⟨⟩
  exact h

/-- So does the end. -/
theorem apart_nil : Apart [] := by
  intro c hc
  cases hc

/-- So does a space. -/
theorem apart_space : Apart (' ' :: rest) :=
  apart_cons (isNameChar_separator (by decide))

namespace Writes

/-- What the tokens are may be described more loosely. -/
theorem imp (h : Writes D cs rest) (himp : ∀ {ts}, D ts → E ts) : Writes E cs rest := by
  intro offset line
  obtain ⟨ts, c', hts, hrest, hscans⟩ := h offset line
  exact ⟨ts, c', himp hts, hrest, hscans⟩

/-- Nothing is read as no tokens. -/
theorem nil : Writes (· = []) [] rest :=
  fun offset line => ⟨[], ⟨rest, offset, line⟩, rfl, rfl, .done rfl⟩

/-- Characters behind others are read as their tokens behind those of the others. -/
theorem append (h : Writes D cs (ds ++ rest)) (h' : Writes E ds rest) :
    Writes (Both D E) (cs ++ ds) rest := by
  intro offset line
  obtain ⟨us, ⟨rest₁, offset₁, line₁⟩, hus, rfl, hscans⟩ := h offset line
  obtain ⟨vs, c', hvs, hrest, hscans'⟩ := h' offset₁ line₁
  rw [List.append_assoc]
  exact ⟨us ++ vs, c', ⟨us, vs, rfl, hus, hvs⟩, hrest, hscans.append hscans'⟩

/-- The spelling of a token is read as the token. -/
theorem token (h : Spells cs kind text rest) (hkind : kind ≠ .eof) :
    Writes (One kind text) cs rest := by
  intro offset line
  obtain ⟨t, c', hnext, ht, htext, hrest⟩ := h offset line
  exact ⟨[t], c', ⟨t, rfl, ht, htext⟩, hrest, .read hnext (ht ▸ hkind) (.done rfl)⟩

/-- The same if only its kind matters. -/
theorem sole (h : Spells cs kind text rest) (hkind : kind ≠ .eof) : Writes (Sole kind) cs rest := by
  refine (token h hkind).imp ?_
  rintro _ ⟨t, rfl, ht, -⟩
  exact ⟨t, rfl, ht⟩

/-- Blanks in front of a piece. -/
theorem blanks (bs : List Char) (hbs : ∀ b ∈ bs, Text.isBlank b) (h : Writes D cs rest) :
    Writes D (bs ++ cs) rest := by
  induction bs with
  | nil => exact h
  | cons b bs ih =>
    intro offset line
    obtain ⟨ts, c', hts, hrest, hscans⟩ := ih (fun b hb => hbs b (List.mem_cons_of_mem _ hb))
      (offset + b.utf8Size) (if b = '\n' then line + 1 else line)
    exact ⟨ts, c', hts, hrest, hscans.of_next_eq (next_blank (hbs b List.mem_cons_self))⟩

/-- A space in front is skipped. -/
theorem space (h : Writes D cs rest) : Writes D (' ' :: cs) rest :=
  h.blanks [' '] (List.forall_mem_singleton.mpr (by decide))

/-- The end of a line behind a piece. -/
theorem newline (h : Writes D cs ('\n' :: rest)) : Writes D (cs ++ ['\n']) rest := by
  refine (append h (nil.blanks ['\n'] (List.forall_mem_singleton.mpr (by decide)))).imp ?_
  rintro _ ⟨us, _, rfl, hus, rfl⟩
  rwa [List.append_nil]

/-! ## Words -/

/-- A word is read as a name or, if it is reserved, as the token for it. -/
theorem word {w : String} (hw : IsWord w.toList)
    (hkind : (Token.Kind.keyword? w).getD .identifier = kind) (heof : kind ≠ .eof)
    (hrest : Apart rest) : Writes (One kind w) w.toList rest := by
  have h := hw.spells hrest
  rw [String.ofList_toList, hkind] at h
  exact token h heof

/-- Every reserved word is one that the lexer reads as such. -/
theorem isWord_reserved : ∀ kind ∈ Token.Kind.reserved, ∀ w ∈ kind.spelling?,
    isWord w.toList ∧ Token.Kind.keyword? w = some kind := by
  decide +kernel

/-- A reserved word. -/
theorem reserved {w : String} (hkind : kind ∈ Token.Kind.reserved) (hw : kind.spelling? = some w)
    (hrest : Apart rest) : Writes (Sole kind) w.toList rest := by
  obtain ⟨hword, hkeyword⟩ := isWord_reserved kind hkind w hw
  have heof : kind ≠ .eof := by rintro rfl; exact absurd hkind (by decide)
  refine (word (isWord_iff.mp hword) (by rw [hkeyword]; rfl) heof hrest).imp ?_
  rintro _ ⟨t, rfl, ht, -⟩
  exact ⟨t, rfl, ht⟩

/-- A reserved word with a blank between it and what follows. -/
theorem keyword {w : String} (kind : Token.Kind) (hkind : kind ∈ Token.Kind.reserved)
    (hw : kind.spelling? = some w) (h : Writes D cs rest) :
    Writes (Both (Sole kind) D) (w.toList ++ (' ' :: cs)) rest :=
  (reserved hkind hw apart_space).append h.space

/-! ## Symbols -/

/-- A symbol is read if the characters behind it do not make a longer one, and no comment starts with it. -/
theorem symbol {c : Char} {taken : List Char} (hmark : isMark c)
    (hslash : c = '/' → (cs ++ rest).head? ≠ some '*')
    (h : symbol? c (cs ++ rest) = some (kind, taken, rest)) (heof : kind ≠ .eof) :
    Writes (Sole kind) (c :: cs) rest :=
  sole (spells_symbol hmark hslash h) heof

/-- The symbols, each with what may stand behind it. -/
theorem leftParen : Writes (Sole .leftParen) ['('] rest :=
  symbol (isMark_symbolStart (by decide)) (fun h => absurd h (by decide)) rfl (by decide)

theorem rightParen : Writes (Sole .rightParen) [')'] rest :=
  symbol (isMark_symbolStart (by decide)) (fun h => absurd h (by decide)) rfl (by decide)

theorem leftBrace : Writes (Sole .leftBrace) ['{'] rest :=
  symbol (isMark_symbolStart (by decide)) (fun h => absurd h (by decide)) rfl (by decide)

theorem rightBrace : Writes (Sole .rightBrace) ['}'] rest :=
  symbol (isMark_symbolStart (by decide)) (fun h => absurd h (by decide)) rfl (by decide)

theorem leftBracket : Writes (Sole .leftBracket) ['['] rest :=
  symbol (isMark_symbolStart (by decide)) (fun h => absurd h (by decide)) rfl (by decide)

theorem rightBracket : Writes (Sole .rightBracket) [']'] rest :=
  symbol (isMark_symbolStart (by decide)) (fun h => absurd h (by decide)) rfl (by decide)

theorem comma : Writes (Sole .comma) [','] rest :=
  symbol (isMark_symbolStart (by decide)) (fun h => absurd h (by decide)) rfl (by decide)

theorem colon : Writes (Sole .colon) [':'] rest :=
  symbol (isMark_symbolStart (by decide)) (fun h => absurd h (by decide)) rfl (by decide)

theorem semicolon : Writes (Sole .semicolon) [';'] rest :=
  symbol (isMark_symbolStart (by decide)) (fun h => absurd h (by decide)) rfl (by decide)

/-- A point. -/
theorem dot : Writes (Sole .dot) ['.'] rest :=
  symbol (isMark_symbolStart (by decide)) (fun h => absurd h (by decide)) rfl (by decide)

/-- An arrow, which is longer than a minus. -/
theorem arrow : Writes (Sole .arrow) ['-', '>'] rest :=
  symbol (isMark_symbolStart (by decide)) (fun h => absurd h (by decide)) rfl (by decide)

/-- A single sign of assignment, which a second one would make a comparison. -/
theorem assign : Writes (Sole .assign) ['='] (' ' :: rest) :=
  symbol (isMark_symbolStart (by decide)) (fun h => absurd h (by decide)) rfl (by decide)

end Writes

end Printing

end ParLang
