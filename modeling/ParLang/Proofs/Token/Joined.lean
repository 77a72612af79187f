import ParLang.Proofs.Token.Lossless

/-!
# Texts one behind the other

What is read from a text does not depend on where it stands (`Cursor.next_moved`), and a line break behind
it changes nothing but its end (`Cursor.next_followed`). So two texts with a line break between them are
read as the tokens of the first and the tokens of the second, moved down (`scan_append_newline`).
-/

namespace ParLang

/-! ## Moving -/

/-- The token further on in its source. -/
def Token.moved (bytes lines : Nat) (t : Token) : Token :=
  ⟨t.kind, t.lexeme, t.line + lines, ⟨t.span.start + bytes, t.span.stop + bytes⟩⟩

/-- The fault further on in its source. -/
def LexError.moved (bytes lines : Nat) (e : LexError) : LexError :=
  ⟨e.cause, e.line + lines, ⟨e.span.start + bytes, e.span.stop + bytes⟩⟩

/-- The result of a reading further on in its source. -/
def movedResult (bytes lines : Nat) : Except LexError Token → Except LexError Token
  | .ok t => .ok (t.moved bytes lines)
  | .error e => .error (e.moved bytes lines)

namespace Cursor

/-- The place further on in its source. -/
def moved (bytes lines : Nat) (c : Cursor) : Cursor :=
  ⟨c.rest, c.offset + bytes, c.line + lines⟩

/-- The state further on: a block comment has started there. -/
def TriviaState.moved (bytes : Nat) : TriviaState → TriviaState
  | .between => .between
  | .lineComment => .lineComment
  | .blockComment start => .blockComment (start + bytes)

/-- The end of skipping further on. -/
def Skipped.moved (bytes lines : Nat) : Skipped → Skipped
  | .reached c => .reached (c.moved bytes lines)
  | .unclosed start c => .unclosed (start + bytes) (c.moved bytes lines)

variable {c c' : Cursor} {t : Token} {ts : List Token}

/-- To pass characters and to move the cursor may be done in either order. -/
theorem past_moved (bytes lines : Nat) (c : Cursor) (taken rest : List Char) :
    (c.moved bytes lines).past taken rest = (c.past taken rest).moved bytes lines := by
  simp [past, moved, Nat.add_right_comm]

/-- A token that is read at a moved cursor is the moved token. -/
theorem token_moved (bytes lines : Nat) (c : Cursor) (kind : Token.Kind) (taken : List Char) :
    (c.moved bytes lines).token kind taken = (c.token kind taken).moved bytes lines := by
  simp [token, moved, Token.moved, Nat.add_right_comm]

/-- A line that is counted on from a later one. -/
theorem line_moved (ch : Char) (line lines : Nat) :
    (if ch = '\n' then line + 1 else line) + lines =
      if ch = '\n' then line + lines + 1 else line + lines := by
  split
  · exact Nat.add_right_comm ..
  · rfl

/-- Trivia are skipped alike at a moved cursor. -/
theorem skipTrivia_moved (bytes lines : Nat) (state : TriviaState) (cs : List Char)
    (offset line : Nat) :
    skipTrivia (state.moved bytes) cs (offset + bytes) (line + lines) =
      (skipTrivia state cs offset line).moved bytes lines := by
  fun_induction skipTrivia state cs offset line <;>
    simp_all [skipTrivia, TriviaState.moved, Skipped.moved, moved, line_moved, Nat.add_right_comm]

/-- A text is read alike at a moved cursor. -/
theorem text_moved (bytes lines : Nat) (c : Cursor) (body : List Char) :
    (c.moved bytes lines).text body =
      (movedResult bytes lines (c.text body).1, (c.text body).2.moved bytes lines) := by
  simp only [text, past_moved]
  split
  · rfl
  · rfl

/-- So is a token. -/
theorem readToken_moved (bytes lines : Nat) (c : Cursor) :
    (c.moved bytes lines).readToken =
      (movedResult bytes lines c.readToken.1, c.readToken.2.moved bytes lines) := by
  have hrest : (c.moved bytes lines).rest = c.rest := rfl
  rw [readToken, readToken, hrest]
  split
  · rw [token_moved]; rfl
  split
  · simp only [word, hrest, token_moved, past_moved]; rfl
  split
  · simp only [number, hrest, token_moved, past_moved]; rfl
  split
  · exact text_moved ..
  split
  · rw [token_moved, past_moved]; rfl
  · simp only [past_moved]; rfl

/-- **What is read does not depend on where the text stands.** -/
theorem next_moved (bytes lines : Nat) (c : Cursor) :
    (c.moved bytes lines).next = (movedResult bytes lines c.next.1, c.next.2.moved bytes lines) := by
  have hskip := skipTrivia_moved bytes lines .between c.rest c.offset c.line
  rw [next, next]
  simp only [moved, TriviaState.moved] at hskip ⊢
  rw [hskip]
  cases skipTrivia .between c.rest c.offset c.line with
  | unclosed start done => rfl
  | reached place => exact readToken_moved bytes lines place

/-- So are tokens, one after the other. -/
theorem Scans.moved (bytes lines : Nat) (h : Scans c ts c') :
    Scans (c.moved bytes lines) (ts.map (Token.moved bytes lines)) (c'.moved bytes lines) := by
  induction h with
  | done h => exact .done (by rw [next_moved, next_moved, h])
  | read h ht _ ih => exact .read (by rw [next_moved, h]; rfl) ht ih

/-! ## A line break behind -/

/-- The place with more characters at the end of its text. -/
def followed (more : List Char) (c : Cursor) : Cursor :=
  ⟨c.rest ++ more, c.offset, c.line⟩

variable {cs ds : List Char}

/-- What is taken up to a line break does not depend on what is behind the break. -/
theorem takeWhile_append_of_break {p : Char → Bool} (hp : p '\n' = false) (cs ds : List Char) :
    (cs ++ '\n' :: ds).takeWhile p = cs.takeWhile p := by
  induction cs with
  | nil => simp [hp]
  | cons c cs ih => simp only [List.cons_append, List.takeWhile_cons, ih]

/-- What is left has the break and all behind it at its end. -/
theorem dropWhile_append_of_break {p : Char → Bool} (hp : p '\n' = false) (cs ds : List Char) :
    (cs ++ '\n' :: ds).dropWhile p = cs.dropWhile p ++ '\n' :: ds := by
  induction cs with
  | nil => simp [hp]
  | cons c cs ih =>
    simp only [List.cons_append, List.dropWhile_cons, ih]
    split
    · rfl
    · rfl

/-- No symbol goes on with a line break. -/
theorem symbol?_followed {ch : Char} {kind : Token.Kind} {taken rest : List Char}
    (h : symbol? ch cs = some (kind, taken, rest)) (ds : List Char) :
    symbol? ch (cs ++ '\n' :: ds) = some (kind, taken, rest ++ '\n' :: ds) := by
  unfold symbol? at h
  dsimp only at h
  split at h
  all_goals try split at h
  all_goals try split at h
  all_goals
    simp only [Option.map_some, Option.map_none, Option.some.injEq, Prod.mk.injEq, reduceCtorEq] at h
  all_goals
    obtain ⟨rfl, rfl, rfl⟩ := h
    first
    | rfl
    | exact if_pos (by assumption)
    | exact if_neg (by assumption)

/-- A text that is closed is closed in front of more characters. -/
theorem text_followed {body : List Char} (h : c.text body = (.ok t, c')) (more : List Char) :
    (c.followed more).text (body ++ more) = (.ok t, c'.followed more) := by
  have hsplit := List.takeWhile_append_dropWhile (p := (· != '"')) (l := body)
  rw [text] at h
  split at h
  · cases h
  · next quote rest hrest =>
    cases h
    have hquote : ((quote != '"') : Bool) = false := by
      have hhead := List.head?_dropWhile_not (· != '"') body
      rw [hrest] at hhead
      simpa using hhead
    have hinner : ∀ d ∈ body.takeWhile (· != '"'), (d != '"') = true := fun d => of_mem_takeWhile
    have hstop : ∀ d ∈ (quote :: rest ++ more).head?, (d != '"') = false := by
      rintro _ ⟨⟩
      exact hquote
    have htake := takeWhile_append_of_stop hinner hstop
    have hdrop := dropWhile_append_of_stop hinner hstop
    rw [hrest] at hsplit
    rw [← List.append_assoc, hsplit] at htake hdrop
    rw [text, hdrop, htake]
    rfl

/-- A token in front of a line break is the token that stands there at the end. -/
theorem readToken_followed (h : c.readToken = (.ok t, c')) (hne : c.rest ≠ []) (ds : List Char) :
    (c.followed ('\n' :: ds)).readToken = (.ok t, c'.followed ('\n' :: ds)) := by
  have hname : isNameChar '\n' = false := isNameChar_separator (by decide)
  obtain ⟨cs, offset, line⟩ := c
  obtain ⟨ch, cs, rfl⟩ := List.exists_cons_of_ne_nil hne
  rw [readToken] at h ⊢
  dsimp only [followed, List.cons_append] at h ⊢
  split at h
  · next hletter =>
    have htake := takeWhile_append_of_break hname (ch :: cs) ds
    have hdrop := dropWhile_append_of_break hname (ch :: cs) ds
    cases h
    rw [if_pos hletter]
    rw [List.cons_append] at htake hdrop
    simp only [word, htake, hdrop]
    rfl
  next hletter =>
  rw [if_neg hletter]
  split at h
  · next hdigit =>
    have htake := takeWhile_append_of_break (p := Char.isDigit) rfl (ch :: cs) ds
    have hdrop := dropWhile_append_of_break (p := Char.isDigit) rfl (ch :: cs) ds
    cases h
    rw [if_pos hdigit]
    rw [List.cons_append] at htake hdrop
    simp only [number, htake, hdrop]
    rfl
  next hdigit =>
  rw [if_neg hdigit]
  split at h
  · next hquote =>
    rw [if_pos hquote]
    exact text_followed h ('\n' :: ds)
  next hquote =>
  rw [if_neg hquote]
  split at h
  · next hsymbol =>
    cases h
    rw [symbol?_followed hsymbol ds]
    rfl
  · cases h

/-- **A line break behind the text does not reach into a token.** -/
theorem next_followed (h : c.next = (.ok t, c')) (ht : t.kind ≠ .eof) (ds : List Char) :
    (c.followed ('\n' :: ds)).next = (.ok t, c'.followed ('\n' :: ds)) := by
  rw [next] at h
  split at h
  · cases h
  next c₁ hreached =>
  have hne : c₁.rest ≠ [] := fun hnil => ht (by rw [(readToken_of_nil h hnil).1]; rfl)
  obtain ⟨gap, hgap, htrivia⟩ := skipped_of_reached hreached
  obtain ⟨ch, rest, hrest⟩ := List.exists_cons_of_ne_nil hne
  obtain ⟨hhash, hblank, hslash⟩ := bare_of_reached hreached hrest
  have hskip : (c.followed ('\n' :: ds)).next = (c₁.followed ('\n' :: ds)).next := by
    rw [followed, hgap.rest, List.append_assoc, next_trivia (htrivia.imp hne), followed,
      hgap.offset_eq, hgap.line_eq]
  have hbare : (c₁.followed ('\n' :: ds)).next = (c₁.followed ('\n' :: ds)).readToken := by
    rw [followed, hrest]
    refine next_of_bare hhash hblank fun hch => ?_
    cases rest with
    | nil => exact fun hstar => absurd (Option.some.inj hstar) (by decide)
    | cons d rest => exact hslash hch
  rw [hskip, hbare, readToken_followed h hne]

/-- Behind the last token, a line break leads to what stands behind it. -/
theorem next_followed_of_end (h : c.next = c'.next) (hend : c'.rest = []) (ds : List Char) :
    (c.followed ('\n' :: ds)).next = (⟨ds, c'.offset + 1, c'.line + 1⟩ : Cursor).next := by
  rw [next_of_nil hend] at h
  obtain ⟨gap, c₁, hreads⟩ := reads_of_next h
  have hnil : c₁.rest = [] := hreads.eof_iff.mp rfl
  have hpasses : Passes c gap c' := by
    have hall := hreads.passes_all
    rwa [show Token.Kind.written _ _ = [] from rfl, List.append_nil] at hall
  have hrest : c.rest = gap := by rw [hpasses.rest, hend, List.append_nil]
  have hbreak := (hreads.trivia.imp fun _ => trivial).append_break
  have hsplit : gap ++ '\n' :: ds = gap ++ ['\n'] ++ ds := by rw [List.append_assoc]; rfl
  rw [followed, hrest, hsplit, next_trivia hbreak, hpasses.offset_eq, hpasses.line_eq,
    byteLength_append, List.count_append]
  rfl

/-- Tokens up to the end are read in front of a line break, and the cursor goes on behind it. -/
theorem Scans.followed (h : Scans c ts c') (hend : c'.rest = []) (ds : List Char) :
    Scans (c.followed ('\n' :: ds)) ts ⟨ds, c'.offset + 1, c'.line + 1⟩ := by
  induction h with
  | done h => exact .done (next_followed_of_end h hend ds)
  | read h ht _ ih => exact .read (next_followed h ht ds) ht (ih hend)

/-! ## Whole texts -/

/-- A run that ends at the end of the text has passed over all of it. -/
theorem Scans.passes (h : Scans c ts c') (hend : c'.rest = []) : Passes c c.rest c' := by
  have hsome : ∃ text, Passes c text c' := by
    induction h with
    | done h =>
      rw [next_of_nil hend] at h
      exact ⟨_, (reads_of_next h).choose_spec.choose_spec.passes_all⟩
    | read h _ _ ih =>
      obtain ⟨text, htext⟩ := ih hend
      obtain ⟨gap, c₁, hreads⟩ := reads_of_next h
      exact ⟨_, hreads.passes_all.trans htext⟩
  obtain ⟨text, htext⟩ := hsome
  have hrest := htext.rest
  rw [hend, List.append_nil] at hrest
  rwa [hrest]

/-- The end token is read at the end of the text only. -/
theorem next_of_eof (h : c.next = (.ok t, c')) (ht : t.kind = .eof) :
    c'.rest = [] ∧ c.next = c'.next := by
  have hread := h
  rw [next] at hread
  split at hread
  · cases hread
  next c₁ _ =>
  by_cases hnil : c₁.rest = []
  · obtain ⟨rfl, rfl⟩ := readToken_of_nil hread hnil
    exact ⟨hnil, by rw [h, next_of_nil hnil]⟩
  · obtain ⟨_, -, hspelled, -⟩ := spelled_of_readToken hread hnil
    exact absurd ht hspelled.kind_ne_eof

/-- A run without a fault ends at the end of the text. -/
theorem scans_of_results {n : Nat} (h : firstFault (results n c) = .ok ts) (hn : c.rest.length < n) :
    ∃ us last c', ts = us ++ [last] ∧ Scans c us c' ∧ c'.rest = [] := by
  induction n generalizing c ts with
  | zero => exact absurd hn (Nat.not_lt_zero _)
  | succ n ih =>
    rw [results] at h
    split at h
    · next t c' hnext =>
      split at h
      · next ht =>
        cases h
        obtain ⟨hend, hsame⟩ := next_of_eof hnext ht
        exact ⟨[], t, c', rfl, .done hsame, hend⟩
      · next ht =>
        obtain ⟨_, hrest, rfl⟩ := firstFault_cons h
        have hlength := length_lt_of_next hnext ht
        obtain ⟨us, last, c'', rfl, hscans, hend⟩ := ih hrest (by omega)
        exact ⟨t :: us, last, c'', rfl, .read hnext ht hscans, hend⟩
    · cases h

/-- A scan up to its end token reads the tokens and leaves nothing. -/
theorem scans_of_scan {source : String} {last : Token} (h : scan source = (ts ++ [last]).map .ok) :
    ∃ c', Scans (.ofString source) ts c' ∧ c'.rest = [] := by
  have hts : firstFault (scan source) = .ok (ts ++ [last]) := by rw [h, firstFault_map_ok]
  obtain ⟨us, last', c', hus, hscans, hend⟩ := scans_of_results hts (Nat.lt_succ_self _)
  obtain rfl := (List.append_inj' hus rfl).1
  exact ⟨c', hscans, hend⟩

end Cursor

/-- **Texts with a line break between them are read one after the other.** The tokens of the second have
moved by the bytes and the lines of the first. -/
theorem scan_append_newline {first second : String} {ts us : List Token} {t u : Token}
    (hfirst : scan first = (ts ++ [t]).map .ok) (hsecond : scan second = (us ++ [u]).map .ok) :
    ∃ e : Token, e.kind = .eof ∧ scan (first ++ "\n" ++ second) =
      (ts ++ us.map (Token.moved (first.utf8ByteSize + 1) (first.toList.count '\n' + 1)) ++ [e]).map
        .ok := by
  obtain ⟨c₁, hscans₁, hend₁⟩ := Cursor.scans_of_scan hfirst
  obtain ⟨c₂, hscans₂, hend₂⟩ := Cursor.scans_of_scan hsecond
  have hplace := hscans₁.passes hend₁
  have hoffset : c₁.offset + 1 = 0 + (first.utf8ByteSize + 1) := by
    rw [hplace.offset_eq, byteLength_ofList]
    simp [Cursor.ofString]
  have hline : c₁.line + 1 = 1 + (first.toList.count '\n' + 1) := by
    rw [hplace.line_eq, Nat.add_assoc]
    rfl
  have hjoined := hscans₁.followed hend₁ second.toList
  rw [hoffset, hline] at hjoined
  have hall := hjoined.append (hscans₂.moved (first.utf8ByteSize + 1) (first.toList.count '\n' + 1))
  have hstart : Cursor.ofString (first ++ "\n" ++ second) =
      (Cursor.ofString first).followed ('\n' :: second.toList) := by
    simp [Cursor.ofString, Cursor.followed]
  exact (hstart ▸ hall).scan hend₂

end ParLang
