import ParLang.Proofs.Source.Lines

/-!
# Where tokens and faults stand

Every token and every fault of a scan has a region of the source and a line. The line of a token, and of
a fault that is no comment without an end, is the one that its region starts on; a comment without an end
is reported on the last line. The region of a token's line holds the start of the token.
-/

namespace ParLang

namespace Cursor

variable {c c' : Cursor} {cs : List Char} {offset line start : Nat} {state : TriviaState}

/-! ## Comments without an end -/

/-- The comment that the end of the text is in: it starts behind `c`, or skipping was in it already. -/
def TriviaState.Unclosed (state : TriviaState) (c : Cursor) (start : Nat) (c' : Cursor) : Prop :=
  (∃ gap c₁ text, Passes c gap c₁ ∧ Passes c₁ text c' ∧ start = c₁.offset) ∨
    state = .blockComment start ∧ ∃ text, Passes c text c'

/-- A comment that begins behind other trivia begins behind the place. -/
theorem TriviaState.Unclosed.of_outside {state₁ : TriviaState} {c₁ : Cursor} {gap : List Char}
    (h : state₁.Unclosed c₁ start c') (hstate : ∀ start, state₁ ≠ .blockComment start)
    (hgap : Passes c gap c₁) : state.Unclosed c start c' := by
  rcases h with ⟨gap', c₂, text, hgap', htext, rfl⟩ | ⟨h, -⟩
  · exact .inl ⟨_, c₂, text, hgap.trans hgap', htext, rfl⟩
  · exact absurd h (hstate start)

/-- What is passed within the trivia of one kind changes nothing of their end. -/
theorem TriviaState.Unclosed.of_same {c₁ : Cursor} {gap : List Char} (hgap : Passes c gap c₁)
    (h : state.Unclosed c₁ start c') : state.Unclosed c start c' := by
  rcases h with ⟨gap', c₂, text, hgap', htext, rfl⟩ | ⟨rfl, text, htext⟩
  · exact .inl ⟨_, c₂, text, hgap.trans hgap', htext, rfl⟩
  · exact .inr ⟨rfl, _, hgap.trans htext⟩

/-- Trivia that come to no end hold a comment that is not closed. -/
theorem unclosed_of_skipTrivia (h : skipTrivia state cs offset line = .unclosed start c) :
    state.Unclosed ⟨cs, offset, line⟩ start c := by
  fun_induction skipTrivia state cs offset line with
  | case1 => cases h
  | case2 rest offset line ih =>
    have hmark : Passes ⟨'/' :: '*' :: rest, offset, line⟩ ['/', '*'] ⟨rest, offset + 2, line⟩ :=
      ⟨rfl, rfl⟩
    rcases ih h with ⟨gap, c₁, text, hgap, htext, rfl⟩ | ⟨hstart, text, htext⟩
    · exact .inl ⟨_, c₁, text, hmark.trans hgap, htext, rfl⟩
    · cases hstart
      exact .inl ⟨[], _, _, .refl _, hmark.trans htext, rfl⟩
  | case3 rest offset line _ ih =>
    exact (ih h).of_outside (by simp) (passes_cons_of_ne (by decide) rest offset line)
  | case4 ch rest offset line _ _ _ ih =>
    exact (ih h).of_outside (by simp) (passes_cons ch rest offset line)
  | case5 => cases h
  | case6 => cases h
  | case7 rest offset line ih =>
    exact (ih h).of_outside (by simp) (passes_cons '\n' rest offset line)
  | case8 ch rest offset line hch ih => exact (ih h).of_same (passes_cons_of_ne hch rest offset line)
  | case9 =>
    cases h
    exact .inr ⟨rfl, [], .refl _⟩
  | case10 _ rest offset line ih =>
    have hmark : Passes ⟨'*' :: '/' :: rest, offset, line⟩ ['*', '/'] ⟨rest, offset + 2, line⟩ :=
      ⟨rfl, rfl⟩
    exact (ih h).of_outside (by simp) hmark
  | case11 _ ch rest offset line _ ih => exact (ih h).of_same (passes_cons ch rest offset line)

/-! ## What is read -/

/-- A fault is the text between two places, with the character that is there at least. -/
theorem fault_of_readToken {e : LexError} (h : c.readToken = (.error e, c')) :
    e.cause ≠ .unterminatedComment ∧ ∃ text ≠ [], Passes c text c' ∧
      e.span = ⟨c.offset, c'.offset⟩ ∧ e.line = c.line := by
  obtain ⟨cs, offset, line⟩ := c
  rw [readToken] at h
  cases cs with
  | nil => cases h
  | cons ch cs =>
    dsimp only at h
    split at h
    · cases h
    · split at h
      · cases h
      · split at h
        · next hquote =>
          subst hquote
          rw [text] at h
          split at h
          · next hnil =>
            cases h
            have hsplit := List.takeWhile_append_dropWhile (p := (· != '"')) (l := cs)
            rw [hnil] at hsplit
            refine ⟨by simp, _, List.cons_ne_nil _ _, ⟨?_, rfl⟩, rfl, rfl⟩
            exact congrArg (List.cons '"') hsplit.symm
          · cases h
        · split at h
          · cases h
          · cases h
            exact ⟨by simp, [ch], List.cons_ne_nil _ _, ⟨rfl, rfl⟩, rfl, rfl⟩

/-- A fault stands behind a gap. It has the line of its start, but a comment without an end has that of
its end. -/
theorem fault_of_next {e : LexError} (h : c.next = (.error e, c')) :
    ∃ gap c₁ text, Passes c gap c₁ ∧ Passes c₁ text c' ∧ e.span = ⟨c₁.offset, c'.offset⟩ ∧
      e.line = if e.cause = .unterminatedComment then c'.line else c₁.line := by
  rw [next] at h
  split at h
  · next start done hunclosed =>
    cases h
    obtain ⟨gap, c₁, text, hgap, htext, rfl⟩ | ⟨hstate, -⟩ := unclosed_of_skipTrivia hunclosed
    · exact ⟨gap, c₁, text, hgap, htext, rfl, rfl⟩
    · cases hstate
  · next c₁ hreached =>
    obtain ⟨gap, hgap, -⟩ := skipped_of_reached hreached
    obtain ⟨hcause, text, -, htext, hspan, hline⟩ := fault_of_readToken h
    exact ⟨gap, c₁, text, hgap, htext, hspan, by rw [if_neg hcause, hline]⟩

/-- A token starts with a character that is no blank. -/
theorem start_of_next {t : Token} (h : c.next = (.ok t, c')) (ht : t.kind ≠ .eof) :
    ∃ gap c₁ ch rest, Passes c gap c₁ ∧ c₁.rest = ch :: rest ∧ Text.isBlank ch = false ∧
      t.line = c₁.line ∧ t.span.start = c₁.offset := by
  rw [next] at h
  split at h
  · cases h
  · next c₁ hreached =>
    obtain ⟨gap, hgap, -⟩ := skipped_of_reached hreached
    have hne : c₁.rest ≠ [] := fun hnil => ht (by rw [(readToken_of_nil h hnil).1]; rfl)
    obtain ⟨taken, -, -, -, hline, hspan⟩ := spelled_of_readToken h hne
    obtain ⟨ch, rest, hrest⟩ := List.exists_cons_of_ne_nil hne
    exact ⟨gap, c₁, ch, rest, hgap, hrest, (bare_of_reached hreached hrest).2.1, hline,
      by rw [hspan]⟩

/-! ## Runs -/

/-- What is read is passed. -/
theorem exists_passes_of_next {r : Except LexError Token} (h : c.next = (r, c')) :
    ∃ text, Passes c text c' := by
  cases r with
  | ok t =>
    obtain ⟨gap, c₁, hreads⟩ := reads_of_next h
    exact ⟨_, hreads.passes_all⟩
  | error e =>
    obtain ⟨gap, c₁, text, hgap, htext, -⟩ := fault_of_next h
    exact ⟨_, hgap.trans htext⟩

/-- Every result of a run was read at a place of the run, and the results behind it from there on. -/
theorem exists_next_of_suffix {r : Except LexError Token} {R : List (Except LexError Token)} {n : Nat}
    (h : r :: R <:+ results n c) :
    ∃ before c₀ c' m, Passes c before c₀ ∧ c₀.next = (r, c') ∧ R ⊆ results m c' := by
  induction n generalizing c with
  | zero => exact absurd (List.suffix_nil.mp h) (List.cons_ne_nil r R)
  | succ n ih =>
    have hbehind : ∀ {r' c' R'}, c.next = (r', c') → R' <:+ results n c' → r :: R <:+ r' :: R' →
        ∃ before c₀ c' m, Passes c before c₀ ∧ c₀.next = (r, c') ∧ R ⊆ results m c' := by
      intro r' c' R' hnext hR' hsuffix
      rcases List.suffix_cons_iff.mp hsuffix with heq | hsuffix
      · obtain ⟨rfl, rfl⟩ := List.cons.inj heq
        exact ⟨[], c, c', n, .refl c, hnext, hR'.subset⟩
      · obtain ⟨text, htext⟩ := exists_passes_of_next hnext
        obtain ⟨before, c₀, c'', m, hbefore, hread, hrest⟩ := ih (hsuffix.trans hR')
        exact ⟨_, c₀, c'', m, htext.trans hbefore, hread, hrest⟩
    rw [results] at h
    split at h
    · next t c' hnext =>
      split at h
      · exact hbehind hnext List.nil_suffix h
      · exact hbehind hnext List.suffix_rfl h
    · next e c' hnext => exact hbehind hnext List.suffix_rfl h

/-- Every result was read somewhere in the text. -/
theorem exists_next_of_mem_results {r : Except LexError Token} {n : Nat} (h : r ∈ results n c) :
    ∃ before c₀ c', Passes c before c₀ ∧ c₀.next = (r, c') := by
  obtain ⟨front, R, hR⟩ := List.append_of_mem h
  obtain ⟨before, c₀, c', -, hbefore, hnext, -⟩ := exists_next_of_suffix ⟨front, hR.symm⟩
  exact ⟨before, c₀, c', hbefore, hnext⟩

/-- Nothing stands behind the end token of a run. -/
theorem eq_nil_of_eof {t : Token} {R : List (Except LexError Token)} {n : Nat}
    (h : .ok t :: R <:+ results n c) (ht : t.kind = .eof) : R = [] := by
  induction n generalizing c with
  | zero => exact absurd (List.suffix_nil.mp h) (List.cons_ne_nil _ R)
  | succ n ih =>
    rw [results] at h
    split at h
    · next t' c' hnext =>
      split at h
      · rcases List.suffix_cons_iff.mp h with heq | hsuffix
        · exact (List.cons.inj heq).2
        · exact absurd (List.suffix_nil.mp hsuffix) (List.cons_ne_nil _ R)
      · next ht' =>
        rcases List.suffix_cons_iff.mp h with heq | hsuffix
        · rw [Except.ok.inj (List.cons.inj heq).1] at ht
          exact absurd ht ht'
        · exact ih hsuffix
    · rcases List.suffix_cons_iff.mp h with heq | hsuffix
      · cases heq
      · exact ih hsuffix

end Cursor

/-- The first fault is among the results. -/
theorem mem_of_firstFault {R : List (Except LexError Token)} {e : LexError}
    (h : firstFault R = .error e) : .error e ∈ R := by
  induction R with
  | nil => cases h
  | cons r R ih =>
    cases r with
    | error e' => cases h; exact List.mem_cons_self
    | ok t =>
      rw [firstFault] at h
      cases hR : firstFault R with
      | error e' =>
        rw [hR] at h
        cases h
        exact List.mem_cons_of_mem _ (ih hR)
      | ok ts => rw [hR] at h; cases h

/-! ## Places in the source -/

variable {source : String} {t : Token} {e : LexError}

/-- The line of a cursor counts the breaks that it has passed. -/
theorem line_of_passes {before : List Char} {c : Cursor}
    (h : Cursor.Passes (.ofString source) before c) :
    c.line = 1 + (String.ofList before).toList.count '\n' := by
  rw [h.line_eq, String.toList_ofList]
  rfl

/-- **A token has the line that its region starts on.** -/
theorem startsOn_of_mem_scan (h : .ok t ∈ scan source) : t.span.StartsOn source t.line := by
  obtain ⟨before, c₀, c', hbefore, hnext⟩ := Cursor.exists_next_of_mem_results h
  obtain ⟨gap, c₁, hreads⟩ := Cursor.reads_of_next hnext
  have hstart := hbefore.trans hreads.passes
  exact ⟨_, _, hreads.span ▸ Cursor.holds_of_passes hstart hreads.written,
    hreads.line.trans (line_of_passes hstart)⟩

/-- A token that follows another has a region behind the place that gave the other its line. -/
theorem follows_of_suffix {start t : Token} {R : List (Except LexError Token)}
    (h : .ok start :: R <:+ scan source) (ht : .ok t ∈ Except.ok start :: R) :
    t.span.Follows source start.line := by
  obtain ⟨before, c₀, c', m, hbefore, hnext, hR⟩ := Cursor.exists_next_of_suffix h
  rcases List.mem_cons.mp ht with heq | ht
  · obtain rfl := Except.ok.inj heq
    exact (startsOn_of_mem_scan (h.subset List.mem_cons_self)).follows
  · obtain ⟨gap, c₁, hreads⟩ := Cursor.reads_of_next hnext
    obtain ⟨mid, c₂, c'', hmid, hnext'⟩ := Cursor.exists_next_of_mem_results (hR ht)
    obtain ⟨gap', c₃, hreads'⟩ := Cursor.reads_of_next hnext'
    have hstart := hbefore.trans hreads.passes
    have hbetween := (hreads.written.trans hmid).trans hreads'.passes
    have hholds := Cursor.holds_of_passes (hstart.trans hbetween) hreads'.written
    rw [String.ofList_append] at hholds
    exact ⟨_, _, _, hreads'.span ▸ hholds, hreads.line.trans (line_of_passes hstart)⟩

/-- **A fault has the line that its region starts on**, but a comment without an end has the line that it
ends on. -/
theorem placed_of_mem_scan (h : .error e ∈ scan source) :
    if e.cause = .unterminatedComment then e.span.EndsOn source e.line
    else e.span.StartsOn source e.line := by
  obtain ⟨before, c₀, c', hbefore, hnext⟩ := Cursor.exists_next_of_mem_results h
  obtain ⟨gap, c₁, text, hgap, htext, hspan, hline⟩ := Cursor.fault_of_next hnext
  have hstart := hbefore.trans hgap
  have hholds := hspan ▸ Cursor.holds_of_passes hstart htext
  split at hline
  · next hcause =>
    rw [if_pos hcause]
    refine ⟨_, _, hholds, ?_⟩
    rw [← String.ofList_append, hline, line_of_passes (hstart.trans htext)]
  · next hcause =>
    rw [if_neg hcause]
    exact ⟨_, _, hholds, hline.trans (line_of_passes hstart)⟩

/-- **The region of a token's line holds the start of the token** and no line break. -/
theorem holds_ofLine_of_mem_scan (h : .ok t ∈ scan source) (ht : t.kind ≠ .eof) :
    ∃ before text, (Span.ofLine source t.line).Holds source before text ∧ '\n' ∉ text.toList ∧
      (Span.ofLine source t.line).start ≤ t.span.start ∧
      t.span.start < (Span.ofLine source t.line).stop := by
  obtain ⟨before, c₀, c', hbefore, hnext⟩ := Cursor.exists_next_of_mem_results h
  obtain ⟨gap, c₁, ch, rest, hgap, hrest, hblank, hline, hspan⟩ := Cursor.start_of_next hnext ht
  have hstart := hbefore.trans hgap
  have htext : source.toList = (before ++ gap) ++ ch :: rest := by
    rw [← hrest]
    exact hstart.rest
  have hnewline : ch ≠ '\n' := by rintro rfl; exact absurd hblank (by decide)
  have hreturn : ch ≠ '\r' := by rintro rfl; exact absurd hblank (by decide)
  obtain ⟨front, line, hholds, hbreak, hle, hlt⟩ := Span.holds_ofLine htext hnewline hreturn
  have hnumber : t.line = 1 + (before ++ gap).count '\n' := by rw [hline, hstart.line_eq]; rfl
  have hoffset : t.span.start = byteLength (before ++ gap) := by
    rw [hspan, hstart.offset_eq]
    exact Nat.zero_add _
  rw [hnumber, hoffset]
  obtain ⟨after, hsource, hregion⟩ := hholds
  refine ⟨front, line, ⟨after, hsource, hregion⟩, hbreak, ?_, ?_⟩
  · rw [hregion]; exact hle
  · rw [hregion]; exact hlt

end ParLang
