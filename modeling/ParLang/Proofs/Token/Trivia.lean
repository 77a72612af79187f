import ParLang.Proofs.Token.Scanning

/-!
# Blanks and comments

`Trivia` describes what may stand between tokens without a word about how it is skipped. Skipping is
shown to be right from both sides: what is skipped in front of a token is trivia
(`Cursor.skipped_of_reached`), and trivia is skipped to its end (`Cursor.next_trivia`), whatever follows
it.
-/

namespace ParLang

/-- The bytes of two lists of characters add up. -/
@[simp] theorem byteLength_append (cs ds : List Char) :
    byteLength (cs ++ ds) = byteLength cs + byteLength ds := by
  induction cs with
  | nil => simp [byteLength]
  | cons c cs ih => simp [byteLength, ih, Nat.add_assoc]

/-- The characters are blanks and comments. A line comment goes up to the end of its line, which is
there unless `atEnd` holds; a block comment goes up to the first closing mark behind its opening mark. -/
inductive Trivia (atEnd : Prop) : List Char → Prop where
  | nil : Trivia atEnd []
  | blank {c cs} (hc : Text.isBlank c) (h : Trivia atEnd cs) : Trivia atEnd (c :: cs)
  | lineComment {body cs} (hbody : '\n' ∉ body) (h : Trivia atEnd cs) :
      Trivia atEnd ('#' :: (body ++ '\n' :: cs))
  | lastComment {body} (hend : atEnd) (hbody : '\n' ∉ body) : Trivia atEnd ('#' :: body)
  | blockComment {body cs} (hbody : ¬ ['*', '/'] <:+: body) (h : Trivia atEnd cs) :
      Trivia atEnd ('/' :: '*' :: (body ++ '*' :: '/' :: cs))

/-- What is asked of trivia at the end may be described more loosely. -/
theorem Trivia.imp {p q : Prop} {cs : List Char} (h : Trivia p cs) (hpq : p → q) : Trivia q cs := by
  induction h with
  | nil => exact .nil
  | blank hc _ ih => exact .blank hc ih
  | lineComment hbody _ ih => exact .lineComment hbody ih
  | lastComment hend hbody => exact .lastComment (hpq hend) hbody
  | blockComment hbody _ ih => exact .blockComment hbody ih

/-- A line break ends what may go up to the end of a text. -/
theorem Trivia.append_break {cs : List Char} (h : Trivia True cs) : Trivia False (cs ++ ['\n']) := by
  induction h with
  | nil => exact .blank (by decide) .nil
  | blank hc _ ih => exact .blank hc ih
  | @lineComment body cs hbody _ ih =>
    rw [List.cons_append, List.append_assoc]
    exact .lineComment hbody ih
  | lastComment _ hbody => exact .lineComment hbody .nil
  | @blockComment body cs hbody _ ih =>
    rw [List.cons_append, List.cons_append, List.append_assoc]
    exact .blockComment hbody ih

namespace Cursor

variable {cs gap rest : List Char} {offset line : Nat} {c : Cursor} {atEnd : Prop}

/-! ## Places -/

/-- The line behind a character and the characters `cs`. -/
theorem line_cons (ch : Char) (cs : List Char) (line : Nat) :
    (if ch = '\n' then line + 1 else line) + cs.count '\n' = line + (ch :: cs).count '\n' := by
  by_cases h : ch = '\n'
  · simp only [h, if_true, List.count_cons_self]
    omega
  · simp [h]

/-- The characters `taken` are next at `c`, and `c'` is the place behind them. -/
structure Passes (c : Cursor) (taken : List Char) (c' : Cursor) : Prop where
  rest : c.rest = taken ++ c'.rest
  place : c' = c.past taken c'.rest

/-- The offset goes on by the bytes that were passed. -/
theorem Passes.offset_eq {c c' : Cursor} (h : Passes c cs c') : c'.offset = c.offset + byteLength cs :=
  congrArg Cursor.offset h.place

/-- The line goes on by the breaks that were passed. -/
theorem Passes.line_eq {c c' : Cursor} (h : Passes c cs c') : c'.line = c.line + cs.count '\n' :=
  congrArg Cursor.line h.place

/-- Nothing was passed. -/
theorem Passes.refl (c : Cursor) : Passes c [] c :=
  ⟨rfl, rfl⟩

/-- What was passed twice, one after the other. -/
theorem Passes.trans {c c₁ c₂ : Cursor} (h : Passes c cs c₁) (h' : Passes c₁ gap c₂) :
    Passes c (cs ++ gap) c₂ := by
  refine ⟨by rw [h.rest, h'.rest, List.append_assoc], ?_⟩
  rw [h'.place, h.place]
  simp [past, Nat.add_assoc]

/-- One character. -/
theorem passes_cons (ch : Char) (cs : List Char) (offset line : Nat) :
    Passes ⟨ch :: cs, offset, line⟩ [ch]
      ⟨cs, offset + ch.utf8Size, if ch = '\n' then line + 1 else line⟩ := by
  refine ⟨rfl, ?_⟩
  rw [past, ← line_cons]
  rfl

/-- A character that is no line break leaves the line. -/
theorem passes_cons_of_ne {ch : Char} (h : ch ≠ '\n') (cs : List Char) (offset line : Nat) :
    Passes ⟨ch :: cs, offset, line⟩ [ch] ⟨cs, offset + ch.utf8Size, line⟩ := by
  have := passes_cons ch cs offset line
  rwa [if_neg h] at this

/-! ## What is skipped is trivia -/

/-- What skipping passes over from a state on. In a comment that is the rest of the comment and trivia
behind it. -/
def TriviaState.Skips (atEnd : Prop) : TriviaState → List Char → Prop
  | .between, gap => Trivia atEnd gap
  | .lineComment, gap =>
    (∃ body cs, gap = body ++ '\n' :: cs ∧ '\n' ∉ body ∧ Trivia atEnd cs) ∨ atEnd ∧ '\n' ∉ gap
  | .blockComment _, gap =>
    ∃ body cs, gap = body ++ '*' :: '/' :: cs ∧ ¬ ['*', '/'] <:+: body ∧ Trivia atEnd cs

/-- One more character of a comment up to the end of its line. -/
theorem TriviaState.skips_lineComment_cons {ch : Char} (hch : ch ≠ '\n')
    (h : TriviaState.lineComment.Skips atEnd gap) : TriviaState.lineComment.Skips atEnd (ch :: gap) := by
  rcases h with ⟨body, cs, rfl, hbody, hcs⟩ | ⟨hend, hgap⟩
  · exact .inl ⟨ch :: body, cs, rfl, by simp [hbody, hch.symm], hcs⟩
  · exact .inr ⟨hend, by simp [hgap, hch.symm]⟩

/-- A character that is not the start of a closing mark belongs to the comment. -/
theorem TriviaState.skips_blockComment_cons {ch : Char} {start : Nat}
    (hch : ch = '*' → gap.head? ≠ some '/') (h : (TriviaState.blockComment start).Skips atEnd gap) :
    (TriviaState.blockComment start).Skips atEnd (ch :: gap) := by
  obtain ⟨body, cs, rfl, hbody, hcs⟩ := h
  refine ⟨ch :: body, cs, rfl, fun hmark => ?_, hcs⟩
  rcases List.infix_cons_iff.mp hmark with hstart | hinside
  · obtain ⟨hstar, hslash⟩ := List.cons_prefix_cons.mp hstart
    cases body with
    | nil => simp at hslash
    | cons d body => exact hch hstar.symm (congrArg some (List.cons_prefix_cons.mp hslash).1.symm)
  · exact hbody hinside

/-- **What skipping passes over is trivia.** -/
theorem skipped_of_reached {state : TriviaState}
    (h : skipTrivia state cs offset line = .reached c) :
    ∃ gap, Passes ⟨cs, offset, line⟩ gap c ∧ state.Skips (c.rest = []) gap := by
  fun_induction skipTrivia state cs offset line with
  | case1 offset line =>
    cases h
    exact ⟨[], .refl _, .nil⟩
  | case2 rest offset line ih =>
    obtain ⟨_, hpasses, body, cs, rfl, hbody, hcs⟩ := ih h
    have hmark : Passes ⟨'/' :: '*' :: rest, offset, line⟩ ['/', '*'] ⟨rest, offset + 2, line⟩ :=
      ⟨rfl, rfl⟩
    exact ⟨_, hmark.trans hpasses, .blockComment hbody hcs⟩
  | case3 rest offset line _ ih =>
    obtain ⟨gap, hpasses, hskips⟩ := ih h
    refine ⟨_, (passes_cons_of_ne (by decide) rest offset line).trans hpasses, ?_⟩
    rcases hskips with ⟨body, cs, rfl, hbody, hcs⟩ | ⟨hend, hgap⟩
    · exact .lineComment hbody hcs
    · exact .lastComment hend hgap
  | case4 ch rest offset line _ _ hblank ih =>
    obtain ⟨gap, hpasses, hskips⟩ := ih h
    exact ⟨_, (passes_cons ch rest offset line).trans hpasses, .blank hblank hskips⟩
  | case5 =>
    cases h
    exact ⟨[], .refl _, .nil⟩
  | case6 =>
    cases h
    exact ⟨[], .refl _, .inr ⟨rfl, List.not_mem_nil⟩⟩
  | case7 rest offset line ih =>
    obtain ⟨gap, hpasses, hskips⟩ := ih h
    exact ⟨_, (passes_cons '\n' rest offset line).trans hpasses,
      .inl ⟨[], gap, rfl, List.not_mem_nil, hskips⟩⟩
  | case8 ch rest offset line hch ih =>
    obtain ⟨gap, hpasses, hskips⟩ := ih h
    exact ⟨_, (passes_cons_of_ne hch rest offset line).trans hpasses,
      TriviaState.skips_lineComment_cons hch hskips⟩
  | case9 => cases h
  | case10 _ rest offset line ih =>
    obtain ⟨gap, hpasses, hskips⟩ := ih h
    have hmark : Passes ⟨'*' :: '/' :: rest, offset, line⟩ ['*', '/'] ⟨rest, offset + 2, line⟩ :=
      ⟨rfl, rfl⟩
    exact ⟨_, hmark.trans hpasses, [], gap, rfl, by simp, hskips⟩
  | case11 _ ch rest offset line hmark ih =>
    obtain ⟨gap, hpasses, hskips⟩ := ih h
    refine ⟨_, (passes_cons ch rest offset line).trans hpasses,
      TriviaState.skips_blockComment_cons (fun hstar hslash => ?_) hskips⟩
    obtain ⟨cs, rfl⟩ := List.head?_eq_some_iff.mp hslash
    exact hmark _ hstar hpasses.rest

/-- Skipping stops at no blank and at no comment. -/
theorem bare_of_reached {state : TriviaState} {ch : Char}
    (h : skipTrivia state cs offset line = .reached c) (hrest : c.rest = ch :: rest) :
    ch ≠ '#' ∧ Text.isBlank ch = false ∧ (ch = '/' → rest.head? ≠ some '*') := by
  fun_induction skipTrivia state cs offset line with
  | case1 | case6 => cases h; cases hrest
  | case2 _ _ _ ih => exact ih h
  | case3 _ _ _ _ ih => exact ih h
  | case4 _ _ _ _ _ _ _ ih => exact ih h
  | case5 ch' rest' _ _ hmark hhash hblank =>
    cases h
    obtain ⟨rfl, rfl⟩ := List.cons.inj hrest
    refine ⟨hhash, by simpa using hblank, fun hslash hstar => ?_⟩
    obtain ⟨more, rfl⟩ := List.head?_eq_some_iff.mp hstar
    exact hmark more hslash rfl
  | case7 _ _ _ ih => exact ih h
  | case8 _ _ _ _ _ ih => exact ih h
  | case9 => cases h
  | case10 _ _ _ _ ih => exact ih h
  | case11 _ _ _ _ _ _ ih => exact ih h

/-! ## Trivia is skipped -/

/-- A comment up to the end of its line is skipped with the break. -/
theorem skipTrivia_lineComment {body : List Char} (hbody : '\n' ∉ body) (rest : List Char)
    (offset line : Nat) :
    skipTrivia .lineComment (body ++ '\n' :: rest) offset line =
      skipTrivia .between rest (offset + byteLength (body ++ ['\n'])) (line + 1) := by
  induction body generalizing offset with
  | nil => rfl
  | cons ch body ih =>
    obtain ⟨hch, hbody⟩ := not_or.mp (mt List.mem_cons.mpr hbody)
    rw [List.cons_append, skipTrivia, if_neg (Ne.symm hch), ih hbody]
    simp [byteLength, Nat.add_assoc]

/-- A comment between its marks is skipped with them. -/
theorem skipTrivia_blockComment {body : List Char} (hbody : ¬ ['*', '/'] <:+: body)
    (rest : List Char) (start offset line : Nat) :
    skipTrivia (.blockComment start) (body ++ '*' :: '/' :: rest) offset line =
      skipTrivia .between rest (offset + byteLength (body ++ ['*', '/']))
        (line + body.count '\n') := by
  induction body generalizing offset line with
  | nil => rfl
  | cons ch body ih =>
    have hrest : ¬ ['*', '/'] <:+: body := fun h => hbody (List.infix_cons h)
    rw [List.cons_append, skipTrivia, ih hrest]
    · rw [line_cons, List.cons_append, byteLength, Nat.add_assoc]
    · -- A closing mark can neither stand in the body nor begin with its last character.
      rintro tail rfl htail
      cases body with
      | nil => simp at htail
      | cons d body =>
        obtain ⟨rfl, -⟩ := List.cons.inj htail
        exact hbody ⟨[], body, rfl⟩

/-- **Trivia is skipped to its end.** -/
theorem skipTrivia_append (h : Trivia False gap) (rest : List Char) (offset line : Nat) :
    skipTrivia .between (gap ++ rest) offset line =
      skipTrivia .between rest (offset + byteLength gap) (line + gap.count '\n') := by
  induction h generalizing offset line with
  | nil => rfl
  | @blank c cs hc _ ih =>
    have hhash : c ≠ '#' := by rintro rfl; exact absurd hc (by decide)
    have hslash : c ≠ '/' := by rintro rfl; exact absurd hc (by decide)
    rw [List.cons_append, skipTrivia, if_neg hhash, if_pos hc, ih, line_cons, Nat.add_assoc]
    · rfl
    · exact fun _ h => absurd h hslash
  | @lineComment body cs hbody _ ih =>
    have hsplit : '#' :: (body ++ '\n' :: cs) = ['#'] ++ (body ++ ['\n']) ++ cs := by simp
    have hbytes : byteLength ('#' :: (body ++ '\n' :: cs)) =
        1 + byteLength (body ++ ['\n']) + byteLength cs := by
      rw [hsplit, byteLength_append, byteLength_append ['#']]
      rfl
    have hcount : ('#' :: (body ++ '\n' :: cs)).count '\n' = 1 + cs.count '\n' := by
      simp [List.count_eq_zero.mpr hbody, Nat.add_comm]
    rw [hbytes, hcount, List.cons_append, skipTrivia, if_pos rfl, List.append_assoc,
      List.cons_append, skipTrivia_lineComment hbody, ih]
    · simp only [Nat.add_assoc]
    · exact fun _ h => absurd h (by decide)
  | lastComment hend => exact hend.elim
  | @blockComment body cs hbody _ ih =>
    have hsplit : '/' :: '*' :: (body ++ '*' :: '/' :: cs) =
        ['/', '*'] ++ (body ++ ['*', '/']) ++ cs := by simp
    have hbytes : byteLength ('/' :: '*' :: (body ++ '*' :: '/' :: cs)) =
        2 + byteLength (body ++ ['*', '/']) + byteLength cs := by
      rw [hsplit, byteLength_append, byteLength_append ['/', '*']]
      rfl
    have hcount : ('/' :: '*' :: (body ++ '*' :: '/' :: cs)).count '\n' =
        body.count '\n' + cs.count '\n' := by simp
    rw [hbytes, hcount, List.cons_append, List.cons_append, skipTrivia, List.append_assoc,
      List.cons_append, List.cons_append, skipTrivia_blockComment hbody, ih]
    simp only [Nat.add_assoc]

/-- Trivia makes no difference to what is read next. -/
theorem next_trivia (h : Trivia False gap) (rest : List Char) (offset line : Nat) :
    (⟨gap ++ rest, offset, line⟩ : Cursor).next =
      (⟨rest, offset + byteLength gap, line + gap.count '\n'⟩ : Cursor).next := by
  rw [next, next, skipTrivia_append h]

end Cursor

end ParLang
