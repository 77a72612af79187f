import ParLang.Diagnostic
import ParLang.Proofs.Grammar.Complaints
import ParLang.Proofs.Grammar.Exact
import ParLang.Proofs.Grammar.Lines
import ParLang.Proofs.Token.Places
import ParLang.Proofs.Typing.Relined

/-!
# Where complaints point

A complaint about the characters or the tokens of a source text has a line and a region, and one about
its meaning has a line only. `complaint_placed` compares the line with the region, and
`diagnostic_placed` says that what is labelled is a region of the source, which for a line is the part of
it that holds the start of a token.
-/

namespace ParLang

open Reader

variable {source : String} {e : ParseError}

/-! ## Scans -/

/-- A run that is long enough ends. -/
theorem Cursor.ended_results {n : Nat} {c : Cursor} (h : c.rest.length < n) : Ended (results n c) := by
  induction n generalizing c with
  | zero => exact absurd h (Nat.not_lt_zero _)
  | succ n ih =>
    rw [results]
    split
    · next t c' hnext =>
      split
      · next ht =>
        refine ⟨.ok t, List.mem_singleton_self _, fun u hu => ?_⟩
        exact Except.ok.inj hu ▸ ht
      · next ht =>
        have hlength := length_lt_of_next hnext ht
        obtain ⟨r, hr, hend⟩ := ih (c := c') (by omega)
        exact ⟨r, List.mem_cons_of_mem _ hr, hend⟩
    · next e c' hnext => exact ⟨.error e, List.mem_cons_self, by simp⟩

/-- A scan ends with the end token or a fault. -/
theorem ended_scan (source : String) : Ended (scan source) :=
  Cursor.ended_results (Nat.lt_succ_self _)

/-- A complaint about a source is about one of its scan's results. -/
theorem blames_of_parse (h : parse source = .error e) : Blames (scan source) e :=
  blames_of_parseResults (ended_scan source) h

/-- A source that is read has no fault, and its tokens derive the program. -/
theorem scan_of_parse {p : Program} (h : parse source = .ok p) :
    ∃ ts last, scan source = (ts ++ [last]).map .ok ∧ Grammar.Derives ts p := by
  obtain ⟨ts, R', hscan, hderives, hend⟩ := Grammar.derives_of_parseResults h
  have hlast : ∃ t R'', R' = .ok t :: R'' ∧ t.kind = .eof := by
    refine hend.resolve_left fun hnil => ?_
    obtain ⟨r, hr, heof⟩ := ended_scan source
    rw [hscan, hnil, List.append_nil, List.mem_map] at hr
    obtain ⟨t, ht, rfl⟩ := hr
    exact hderives.endless t ht (heof t rfl)
  obtain ⟨last, R'', rfl, hlast⟩ := hlast
  obtain rfl := Cursor.eq_nil_of_eof ⟨_, hscan.symm⟩ hlast
  exact ⟨ts, last, by simp [hscan], hderives⟩

/-! ## Lines and regions -/

/-- The line of the complaint is the one that its region starts on. Two complaints take their line from
elsewhere: a comment without an end has the line that it ends on, and the update of a loop has that of its
own start, where the region is that of a token further on. -/
def ParseError.Placed (source : String) : ParseError → Prop
  | .lexical e =>
    if e.cause = .unterminatedComment then e.span.EndsOn source e.line
    else e.span.StartsOn source e.line
  | .grammar e =>
    if e.cause = .updateNotAssignment then e.span.Follows source e.line
    else e.span.StartsOn source e.line

/-- Since the results of a scan stand at their lines, so do the complaints about them. -/
theorem Reader.Blames.placed (h : Blames (scan source) e) : e.Placed source := by
  cases h with
  | fault h => exact placed_of_mem_scan h
  | token h =>
    have hstart := startsOn_of_mem_scan h
    rw [ParseError.Placed]
    split
    · exact hstart.follows
    · exact hstart
  | update hstart h =>
    rw [ParseError.Placed, if_pos rfl]
    exact follows_of_suffix hstart h

/-- A complaint that is placed has a region of the source. -/
theorem ParseError.Placed.isRegion (h : e.Placed source) : e.span.IsRegion source := by
  cases e with
  | lexical e =>
    rw [ParseError.Placed] at h
    split at h
    · exact h.isRegion
    · exact h.isRegion
  | grammar e =>
    rw [ParseError.Placed] at h
    split at h
    · exact h.isRegion
    · exact h.isRegion

/-- A fault of the lexer is placed. -/
theorem placed_of_tokens {fault : LexError} (h : tokens source = .error fault) :
    (ParseError.lexical fault).Placed source :=
  placed_of_mem_scan (mem_of_firstFault h)

/-- So is every complaint of the parser. -/
theorem placed_of_parse (h : parse source = .error e) : e.Placed source :=
  (blames_of_parse h).placed

/-- **The line of a complaint and its region agree**, at all places but the two that `Placed` names. -/
theorem complaint_placed (source : String) (e : ParseError)
    (h : parse source = .error e ∨ ∃ fault, tokens source = .error fault ∧ e = .lexical fault) :
    e.Placed source := by
  rcases h with h | ⟨fault, h, rfl⟩
  · exact placed_of_parse h
  · exact placed_of_tokens h

/-- An error that a test finds is the error. -/
theorem eq_error_of_match {α ε : Type} [BEq ε] [LawfulBEq ε] {x : Except ε α} {e : ε}
    (h : (match x with
      | .error e' => e' == e
      | .ok _ => false) = true) : x = .error e := by
  cases x with
  | error e' => rw [eq_of_beq h]
  | ok a => contradiction

/-- A string over two lines, and a parenthesis that nothing opens on the line behind it. -/
def strayParen : String :=
  "x = \"a\nb\"\n)"

/-- A parenthesis where a name has to be is complained about on its line. -/
theorem complaint_placed_strayParen :
    parse strayParen = .error (.grammar
      ⟨.expected .identifier ⟨.rightParen, ")", 3, ⟨10, 11⟩⟩, 3, ⟨10, 11⟩⟩) ∧
    (⟨10, 11⟩ : Span).StartsOn strayParen 3 := by
  have hparse : parse strayParen = .error (.grammar
      ⟨.expected .identifier ⟨.rightParen, ")", 3, ⟨10, 11⟩⟩, 3, ⟨10, 11⟩⟩) :=
    eq_error_of_match (by decide +kernel)
  exact ⟨hparse, complaint_placed _ _ (.inl hparse)⟩

/-- A comment without an end. -/
def openComment : String :=
  "/*\n"

/-- The update of a loop that is a call over two lines. -/
def callingUpdate : String :=
  "for (i = 0; true; f(\n)) \x7b\x7d"

/-- Both complaints have a line that their region does not start on. -/
theorem complaints_misplaced :
    tokens openComment = .error ⟨.unterminatedComment, 2, ⟨0, 3⟩⟩ ∧
      ¬ (⟨0, 3⟩ : Span).StartsOn openComment 2 ∧
    parse callingUpdate = .error (.grammar ⟨.updateNotAssignment, 1, ⟨22, 23⟩⟩) ∧
      ¬ (⟨22, 23⟩ : Span).StartsOn callingUpdate 1 := by
  have hcomment : (⟨0, 3⟩ : Span).StartsOn openComment 1 :=
    ⟨"", openComment, ⟨"", by decide, by decide⟩, by decide⟩
  have hupdate : (⟨22, 23⟩ : Span).StartsOn callingUpdate 2 :=
    ⟨"for (i = 0; true; f(\n)", ")", ⟨" \x7b\x7d", by decide, by decide⟩, by decide⟩
  refine ⟨by decide +kernel, fun h => ?_, eq_error_of_match (by decide +kernel), fun h => ?_⟩
  · exact absurd (h.unique hcomment) (by decide)
  · exact absurd (h.unique hupdate) (by decide)

/-! ## Labels -/

/-- A complaint about meaning names the line of a token. -/
theorem exists_token_of_check {p : Program} {ts : List Token} {e : SemanticError}
    (h : Grammar.Derives ts p) (he : p.check = .error e) : ∃ t ∈ ts, t.line = e.line := by
  -- Lines are moved, all but those of the tokens: the program stays, and so does the complaint.
  let move (l : Nat) : Nat := if l ∈ ts.map Token.line then l else l + 1
  have hkeeps : ∀ t ∈ ts, move t.line = t.line := fun t ht => if_pos (List.mem_map_of_mem ht)
  have hmoved := p.check_relined move
  rw [h.relined_eq hkeeps, he] at hmoved
  have hline : e.line = move e.line := congrArg SemanticError.line (Except.error.inj hmoved)
  by_contra hnone
  have hmem : e.line ∉ ts.map Token.line := fun hmem => by
    obtain ⟨t, ht, hline⟩ := List.mem_map.mp hmem
    exact hnone ⟨t, ht, hline⟩
  rw [show move e.line = e.line + 1 from if_neg hmem] at hline
  omega

/-- What is not accepted is not read, or read and not passed by the check. -/
theorem error_of_compile {e : CompileError} (h : compile source = .error e) :
    (∃ e', e = .parse e' ∧ parse source = .error e') ∨
      ∃ e' p, e = .semantic e' ∧ parse source = .ok p ∧ p.check = .error e' := by
  rw [compile] at h
  cases hp : parse source with
  | error e' =>
    rw [hp] at h
    cases h
    exact .inl ⟨e', rfl, rfl⟩
  | ok p =>
    rw [hp] at h
    dsimp only at h
    cases hc : p.check with
    | ok => rw [hc] at h; cases h
    | error e' =>
      rw [hc] at h
      cases h
      exact .inr ⟨e', p, rfl, rfl, hc⟩

/-- The region of the line that a complaint about meaning names holds the start of a token of that
line. -/
theorem exists_token_of_semantic {e : SemanticError} (h : compile source = .error (.semantic e)) :
    ∃ ts t, tokens source = .ok ts ∧ t ∈ ts ∧ t.kind ≠ .eof ∧ t.line = e.line ∧
      ∃ before text, (Span.ofLine source e.line).Holds source before text ∧ '\n' ∉ text.toList ∧
        (Span.ofLine source e.line).start ≤ t.span.start ∧
        t.span.start < (Span.ofLine source e.line).stop := by
  obtain ⟨_, he, -⟩ | ⟨_, p, he, hp, hcheck⟩ := error_of_compile h
  · cases he
  cases he
  obtain ⟨ts, last, hscan, hderives⟩ := scan_of_parse hp
  obtain ⟨t, ht, hline⟩ := exists_token_of_check hderives hcheck
  have htokens : tokens source = .ok (ts ++ [last]) := by rw [tokens, hscan, firstFault_map_ok]
  have hmem : .ok t ∈ scan source := hscan ▸ List.mem_map_of_mem (List.mem_append_left _ ht)
  have hne := hderives.endless t ht
  exact ⟨_, t, htokens, List.mem_append_left _ ht, hne, hline,
    hline ▸ holds_ofLine_of_mem_scan hmem hne⟩

/-- The label of a complaint that the compiler makes is a region of the source. -/
theorem isRegion_of_compile {e : CompileError} (h : compile source = .error e) :
    (Diagnostic.ofCompileError source e).span.IsRegion source := by
  obtain ⟨e, rfl, hparse⟩ | ⟨e, -, rfl, -⟩ := error_of_compile h
  · have hregion := (placed_of_parse hparse).isRegion
    cases e with
    | lexical e => exact hregion
    | grammar e => exact hregion
  · obtain ⟨ts, t, -, -, -, -, before, text, hholds, -⟩ := exists_token_of_semantic h
    exact ⟨before, text, hholds⟩

/-- **What is labelled is a region of the source**, for complaints about the characters, the tokens and
the meaning. For the last it is the part of a line that holds the start of a token of that line. -/
theorem diagnostic_placed (source : String) :
    (∀ d, (∃ fault, tokens source = .error fault ∧ d = Diagnostic.ofLexError fault) ∨
        (∃ e, compile source = .error e ∧ d = Diagnostic.ofCompileError source e) →
      d.span.IsRegion source ∧ d.span.start + d.span.length ≤ source.utf8ByteSize) ∧
    ∀ e, compile source = .error (.semantic e) →
      ∃ ts t, tokens source = .ok ts ∧ t ∈ ts ∧ t.kind ≠ .eof ∧ t.line = e.line ∧
        ∃ before text, (Diagnostic.ofSemanticError source e).span.Holds source before text ∧
          '\n' ∉ text.toList ∧
          (Diagnostic.ofSemanticError source e).span.start ≤ t.span.start ∧
          t.span.start < (Diagnostic.ofSemanticError source e).span.stop := by
  refine ⟨fun d hd => ?_, fun e he => exists_token_of_semantic he⟩
  have hregion : d.span.IsRegion source := by
    rcases hd with ⟨fault, h, rfl⟩ | ⟨e, h, rfl⟩
    · exact (placed_of_tokens h).isRegion
    · exact isRegion_of_compile h
  exact ⟨hregion, hregion.le⟩

/-- Lines that end with a carriage return, and a letter of two bytes in front of the second. -/
def returnedLines : String :=
  "# é\r\n\tx = 1\r\n"

/-- The complaint about the assignment. -/
def returnedComplaint : SemanticError :=
  ⟨.undeclaredVariable "x", 2⟩

/-- A statement on two lines has its label on the first of them. -/
theorem diagnostic_placed_returnedLines :
    compile returnedLines = .error (.semantic returnedComplaint) ∧
      (Diagnostic.ofSemanticError returnedLines returnedComplaint).span = ⟨6, 12⟩ ∧
      (⟨6, 12⟩ : Span).IsRegion returnedLines ∧
      ∃ ts t, tokens returnedLines = .ok ts ∧ t ∈ ts ∧ t.kind ≠ .eof ∧ t.line = 2 ∧
        6 ≤ t.span.start ∧ t.span.start < 12 := by
  have hcompile : compile returnedLines = .error (.semantic returnedComplaint) :=
    eq_error_of_match (by decide +kernel)
  have hspan : (Diagnostic.ofSemanticError returnedLines returnedComplaint).span = ⟨6, 12⟩ := by
    decide +kernel
  have hplaced := diagnostic_placed returnedLines
  have hregion := (hplaced.1 _ (.inr ⟨_, hcompile, rfl⟩)).1
  obtain ⟨ts, t, hts, ht, hkind, hline, before, text, -, -, hle, hlt⟩ := hplaced.2 _ hcompile
  rw [hspan] at hle hlt
  exact ⟨hcompile, hspan, hspan ▸ hregion, ts, t, hts, ht, hkind, hline, hle, hlt⟩

end ParLang
