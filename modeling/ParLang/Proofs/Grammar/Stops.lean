import ParLang.Proofs.Grammar.Prefixes
import ParLang.Proofs.Number.Decimal

/-!
# Where readers stop

A reader that fails has taken the beginning of what it reads, and complains about what stands behind it
(`Halts`). This is shown for the readers of expressions and then for those of statements, by induction on
the budget. So no reader runs out of steps, and no number is refused: its text is made of digits.

What a reader may take before it fails is fewer tokens than its budget allows at eight steps for each.
The readers that call each other without taking a token have different allowances, from `n` for a
primary to `n - 4` for a list of expressions, so that a call always finds the allowance it needs.
-/

namespace ParLang

namespace Grammar

open Reader TokenStream

variable {α β : Type} {D : List Token → α → Prop} {pre ts us : List Token}
  {R : List (Except LexError Token)} {P : Token → Prop} {m n : Nat} {e : ParseError}

/-! ## Expressions -/

/-- A name alone is an operand, so nothing yet begins one. -/
theorem primary_begins : Begins Primary [] := by
  have hname : Begins Primary [sample .identifier] := .of_phrase (.name rfl) (by simp [sample])
  exact hname.of_sample (by decide)

/-- Nothing yet begins an operand with the operators in front of it. -/
theorem unary_begins : Begins Unary [] :=
  primary_begins.before fun _ _ h => .of_phrase (.primary h) h.endless

/-- Nothing yet begins an expression of each level. -/
theorem level_begins {k : Nat} (hk : k ≤ 7) : Begins (Level k) [] := by
  refine unary_begins.before fun ts e h => ?_
  have hlevel : Level k ts e := Level.loosen (.unary h) hk
  exact .of_phrase hlevel h.endless

/-- Nothing yet begins a list of expressions. -/
theorem items_begins : Begins Items [] :=
  (level_begins (by decide)).before fun _ _ h => .of_phrase (.one h) h.endless

/-- Digits, a point and digits spell a number, so two tokens of digits make a fraction. -/
theorem exists_readDecimal? {whole u : Token} (hwhole : Cursor.IsDigits whole.lexeme.toList)
    (hu : Cursor.IsDigits u.lexeme.toList) :
    ∃ x, Number.readDecimal? (whole.lexeme ++ "." ++ u.lexeme) = some x :=
  ⟨_, Number.readDecimal?_fraction hwhole hu (by simp)⟩

/-- No number is refused: its text is a run of digits, or two with a point between them. -/
theorem number_halts : Halts Primary [] m Unknown Reader.number := by
  refine .expect (by decide) fun whole hkind hformed => ?_
  have hwhole := hformed.number hkind
  have hdigits := Number.readDecimal?_digits hwhole
  have hbegins : Begins Primary ([] ++ [whole]) :=
    .of_phrase (.number hkind hdigits) (by simp [hkind])
  rw [numberText, bind_assoc]
  refine .accept (by decide) (fun dot _ hdot _ => ?_) ?_
  · have hfraction : ∀ u : Token, u.kind = .number → u.Formed →
        ∃ x, Number.readDecimal? (whole.lexeme ++ "." ++ u.lexeme) = some x ∧
          Begins Primary ([whole, dot] ++ [u]) := by
      intro u hu hformed
      obtain ⟨x, hx⟩ := exists_readDecimal? hwhole (hformed.number hu)
      exact ⟨x, hx, .of_phrase (.fraction hkind hdot hu hx) (by simp [hkind, hdot, hu])⟩
    obtain ⟨-, -, hsample⟩ := hfraction (sample .number) rfl (sample_formed _)
    have hpoint : Begins Primary [whole, dot] := hsample.of_sample (by decide)
    rw [if_pos rfl, bind_assoc]
    refine .check ?_ (.reject_bind hpoint fun _ => rfl)
    rw [if_pos rfl, bind_assoc]
    refine .advance hpoint (fun t ht => by rw [ht.2]; decide) fun u hu hformed => ?_
    obtain ⟨x, hx, hbegins⟩ := hfraction u hu.2 hformed
    rw [pure_bind, hx]
    exact .pure hbegins _
  · rw [if_neg Bool.false_ne_true, pure_bind, hdigits]
    exact .pure hbegins _

/-- Arguments hold no end token. -/
theorem Arguments.endless {args : List Expr} (h : Arguments ts args) : Endless ts := by
  obtain ⟨opening, us, closing, rfl, ho, h, hc⟩ := h
  simp [ho, h.endless, hc]

/-- Nothing yet begins arguments: there may be none between the parentheses. -/
theorem arguments_begins : Begins Arguments [] := by
  have harguments : Arguments [sample .leftParen, sample .rightParen] [] :=
    ⟨_, [], _, rfl, rfl, .none, rfl⟩
  have hbegins : Begins Arguments [sample .leftParen] :=
    Begins.of_sample (.of_phrase harguments harguments.endless) (by decide)
  exact hbegins.of_sample (by decide)

/-- What is to be shown of the readers of expressions at the budget `n`. -/
structure HaltsAt (n : Nat) : Prop where
  expression : Halts Expression [] (n - 3) Unknown (Reader.expression n)
  binary : ∀ {least}, least ≤ 7 → Halts (Level least) [] (n - 2) Unknown (Reader.binary n least)
  climb : ∀ {least j us left}, least ≤ j → Level j us left →
    Halts (Level least) us (n + 8 * us.length)
      (fun t => ∀ op, binaryOp? t.kind = some op → op.precedence < j + 1)
      (Reader.climb n least left)
  unary : Halts Unary [] (n - 1) Unknown (Reader.unary n)
  primary : Halts Primary [] n Unknown (Reader.primary n)
  arguments : Halts Arguments [] n Unknown (Reader.arguments n)
  expressions : Halts Items [] (n - 4) Unknown (Reader.expressions n)

namespace HaltsAt

variable {least : Nat}

/-- An expression stops as its loosest level does. -/
theorem expression_succ (ih : HaltsAt n) :
    Halts Expression [] (n + 1 - 3) Unknown (Reader.expression (n + 1)) :=
  (ih.binary (by decide)).mono (by omega)

/-- A level stops in its operand, or behind it at an operator's right operand. -/
theorem binary_succ (ih : HaltsAt n) (hleast : least ≤ 7) :
    Halts (Level least) [] (n + 1 - 2) Unknown (Reader.binary (n + 1) least) := by
  rw [Reader.binary]
  refine .bind ih.unary (by simp) (readsAt n).unary fun ts left h => ?_
  have hseven : Level 7 ts left := .unary h
  have hclimb := ih.climb hleast hseven
  exact (hclimb.imp fun t _ op _ => Nat.lt_succ_of_lt (precedence_lt_seven op)).mono (by omega)

/-- The step of the climb. Behind the sign of an operator a right operand begins. -/
theorem climb_succ {j : Nat} {left : Expr} (ih : HaltsAt n) (hleast : least ≤ j)
    (hleft : Level j us left) :
    Halts (Level least) us (n + 1 + 8 * us.length)
      (fun t => ∀ op, binaryOp? t.kind = some op → op.precedence < j + 1)
      (Reader.climb (n + 1) least left) := by
  have hbegins : Begins (Level least) us := .of_phrase (hleft.loosen hleast) hleft.endless
  rw [Reader.climb]
  refine .peek hbegins fun t hbelow => ?_
  cases hop : binaryOp? t.kind with
  | none => exact .pure hbegins _
  | some op =>
    dsimp only
    split
    · next hle =>
      have heof : t.kind ≠ .eof := fun heof => by rw [heof] at hop; cases hop
      refine .advance hbegins (fun _ h => h ▸ heof) fun sign hsign _ => ?_
      obtain rfl := hsign
      have hpj : op.precedence ≤ j := Nat.lt_succ_iff.mp (hbelow op hop)
      have hseven := precedence_lt_seven op
      refine .weaken (.bind_next
        (Q := fun t => ∀ op', binaryOp? t.kind = some op' → op'.precedence < op.precedence + 1)
        (ih.binary (by omega)) (by simp; omega) ?_ fun vs right hright => ?_)
      · intro R s e s' hs _ he
        exact (readsAt n).binary (by omega) hs he
      · have hbinary : Level op.precedence (us ++ [sign] ++ vs) (.binary sign.line op left right) := by
          rw [List.append_assoc, List.singleton_append]
          exact .binary (hleft.loosen hpj) (operator_iff.mpr ⟨hop, rfl⟩) hright
        exact (ih.climb hle hbinary).mono (by simp; omega)
    · exact .pure hbegins _

/-- An operator in front stops in its operand. -/
theorem unary_succ (ih : HaltsAt n) : Halts Unary [] (n + 1 - 1) Unknown (Reader.unary (n + 1)) := by
  rw [Reader.unary]
  refine .peek unary_begins fun t _ => ?_
  cases hop : unaryOp? t.kind with
  | none => exact .last ih.primary.weaken (by simp) .nil fun _ _ h => .of_phrase (.primary h) h.endless
  | some op =>
    have hne : t.kind = .minus ∨ t.kind = .bang := by
      cases hkind : t.kind <;> rw [hkind] at hop <;> first | exact .inl rfl | exact .inr rfl | cases hop
    refine .advance unary_begins ?_ fun sign hsign _ => ?_
    · rintro _ rfl; rcases hne with h | h <;> rw [h] <;> decide
    · obtain rfl := hsign
      refine .bind ih.unary (by simp; omega) (readsAt n).unary fun ts e h => .pure ?_ _
      rcases hne with hsign | hsign
      · exact .of_phrase (.neg hsign h) (by simp [hsign, h.endless])
      · exact .of_phrase (.not hsign h) (by simp [hsign, h.endless])

/-- Arguments stop in an expression or at what should close them. -/
theorem arguments_succ (ih : HaltsAt n) :
    Halts Arguments [] (n + 1) Unknown (Reader.arguments (n + 1)) := by
  rw [Reader.arguments]
  refine .expect (by decide) fun opening ho _ => .accept (by decide) ?_ ?_
  · intro closing _ hc _
    have harguments : Arguments [opening, closing] [] := ⟨opening, [], closing, rfl, ho, .none, hc⟩
    exact .pure (.of_phrase harguments harguments.endless) _
  · refine .bind ih.expressions (by simp; omega) (readsAt n).expressions fun ts args h => ?_
    refine .expect (by decide) fun closing hc _ => .pure ?_ _
    have harguments : Arguments (opening :: (ts ++ [closing])) args :=
      ⟨opening, ts, closing, rfl, ho, .some h, hc⟩
    exact .of_phrase harguments harguments.endless

/-- Expressions stop in one of them. -/
theorem expressions_succ (ih : HaltsAt n) :
    Halts Items [] (n + 1 - 4) Unknown (Reader.expressions (n + 1)) := by
  rw [Reader.expressions]
  refine .bind ih.expression (by simp) (readsAt n).expression fun ts first h => ?_
  refine .accept (by decide) (fun comma _ hcomma _ => ?_) (.pure (.of_phrase (.one h) h.endless) _)
  refine .bind ih.expressions (by simp; omega) (readsAt n).expressions fun us rest hrest => ?_
  refine .pure (.of_eq (.cons h hcomma hrest) ?_ (by simp)) _
  simp [h.endless, hcomma, hrest.endless]

/-- An operand stops by the form that its first token tells. -/
theorem primary_succ (ih : HaltsAt n) :
    Halts Primary [] (n + 1) Unknown (Reader.primary (n + 1)) := by
  rw [Reader.primary]
  refine .peek primary_begins fun t _ => ?_
  cases hkind : t.kind
  all_goals dsimp only
  case number => exact number_halts.weaken
  case string =>
    refine .advance primary_begins (fun _ h => by rw [h, hkind]; decide) fun _ ht _ => .pure ?_ _
    exact .of_phrase (.text (ht ▸ hkind)) (by simp [ht, hkind])
  case trueWord =>
    refine .advance primary_begins (fun _ h => by rw [h, hkind]; decide) fun _ ht _ => .pure ?_ _
    exact .of_phrase (.true (ht ▸ hkind)) (by simp [ht, hkind])
  case falseWord =>
    refine .advance primary_begins (fun _ h => by rw [h, hkind]; decide) fun _ ht _ => .pure ?_ _
    exact .of_phrase (.false (ht ▸ hkind)) (by simp [ht, hkind])
  case identifier =>
    refine .advance primary_begins (fun _ h => by rw [h, hkind]; decide) fun name hname _ => ?_
    obtain rfl := hname
    refine .check (.weaken ?_) (.accept (by decide) (fun opening _ ho _ => ?_) ?_)
    · refine .bind ih.arguments (by simp) (readsAt n).arguments fun ts args h => .pure ?_ _
      obtain ⟨opening, us, closing, rfl, ho, h, hc⟩ := h
      exact .of_phrase (.call hkind ho h hc) (by simp [hkind, ho, h.endless, hc])
    · refine .bind ih.expression (by simp; omega) (readsAt n).expression fun ts position h => ?_
      refine .expect (by decide) fun closing hc _ => .pure ?_ _
      exact .of_phrase (.index hkind ho h hc) (by simp [hkind, ho, h.endless, hc])
    · exact .pure (.of_phrase (.name hkind) (by simp [hkind])) _
  case leftBracket =>
    refine .advance primary_begins (fun _ h => by rw [h, hkind]; decide) fun opening ho _ => ?_
    obtain rfl := ho
    refine .check ?_ ?_
    · rw [if_pos rfl, pure_bind]
      refine .weaken (.expect (by decide) fun closing hc _ => .pure ?_ _)
      exact .of_phrase (.array hkind .none hc) (by simp [hkind, hc])
    · refine .bind ih.expressions (by simp; omega) (readsAt n).expressions fun ts items h => ?_
      refine .expect (by decide) fun closing hc _ => .pure ?_ _
      exact .of_phrase (.array hkind (.some h) hc) (by simp [hkind, h.endless, hc])
  case leftParen =>
    refine .advance primary_begins (fun _ h => by rw [h, hkind]; decide) fun opening ho _ => ?_
    obtain rfl := ho
    refine .bind ih.expression (by simp; omega) (readsAt n).expression fun ts inner h => ?_
    refine .expect (by decide) fun closing hc _ => .pure ?_ _
    exact .of_phrase (.parens hkind h hc) (by simp [hkind, h.endless, hc])
  all_goals exact .reject primary_begins fun _ => rfl

end HaltsAt

/-- **The readers of expressions stop behind the beginning of an expression**, at every budget. -/
theorem haltsAt (n : Nat) : HaltsAt n := by
  induction n with
  | zero =>
    refine ⟨.spent (level_begins (by decide)) (by simp), fun h => .spent (level_begins h) (by simp),
      fun hleast hleft => .spent ?_ (by simp), .spent unary_begins (by simp),
      .spent primary_begins (by simp), .spent arguments_begins (by simp),
      .spent items_begins (by simp)⟩
    exact .of_phrase (hleft.loosen hleast) hleft.endless
  | succ n ih =>
    exact ⟨ih.expression_succ, ih.binary_succ, ih.climb_succ, ih.unary_succ, ih.primary_succ,
      ih.arguments_succ, ih.expressions_succ⟩

/-! ## Types and simple statements -/

/-- A word for a type is one, so nothing yet begins a type. -/
theorem annotation_begins : Begins Annotation [] := by
  have hnamed : Begins Annotation [sample .typeName] := .of_phrase (.named rfl) (by simp [sample])
  exact hnamed.of_sample (by decide)

/-- A type stops at the word that is missing, or at a bracket that is not closed. -/
theorem typeExpr_halts (n : Nat) : Halts Annotation [] n Unknown (Reader.typeExpr n) := by
  induction n with
  | zero => exact .spent annotation_begins (by simp)
  | succ n ih =>
    rw [Reader.typeExpr]
    refine .accept (by decide) (fun opening _ ho _ => ?_) (.check ?_ ?_)
    · refine .bind ih (by simp) typeExpr_reads fun ts type h => ?_
      refine .expect (by decide) fun closing hc _ => .pure ?_ _
      exact .of_phrase (.array ho h hc) (by simp [ho, h.endless, hc])
    · refine .advance annotation_begins (fun t ht => by rw [ht.2]; decide) fun t ht _ => .pure ?_ _
      exact .of_phrase (.named ht.2) (by simp [ht.2])
    · exact .reject annotation_begins fun _ => rfl

/-- Indexes stop in one of them, or at a bracket that is not closed. -/
theorem indexChain_halts {line : Nat} {target : Target} :
    Halts (Indexes line target) [] n Unknown (Reader.indexChain n line target) := by
  have hbegins : ∀ {target}, Begins (Indexes line target) [] := .of_phrase .none .nil
  induction n generalizing target with
  | zero => exact .spent hbegins (by simp)
  | succ n ih =>
    rw [Reader.indexChain]
    refine .accept (by decide) (fun opening _ ho _ => ?_) (.pure hbegins _)
    refine .bind (haltsAt n).expression (by simp; omega) (readsAt n).expression fun ts position h => ?_
    refine .expect (by decide) fun closing hc _ => ?_
    refine .last ih (by simp; omega) (by simp [ho, h.endless, hc]) fun us target' hrest => ?_
    have hindexes := Indexes.cons ho h hc hrest
    exact .of_eq hindexes hindexes.endless (by simp)

/-- Behind a name and the indexes of a target. An index leaves only the sign of an assignment. -/
theorem afterTarget_halts {t : Token} {target : Target} (ht : t.kind = .identifier)
    (htarget : Indexes t.line (.variable t.line t.lexeme) us target) :
    Halts Simple (t :: us) (n + 8 * us.length) Unknown (Reader.afterTarget n t target) := by
  have hexpression := (haltsAt n).expression
  have hassign : ∀ sign : Token, sign.kind = .assign →
      Halts Simple (t :: us ++ [sign]) (n + 8 * us.length) Unknown
        (Reader.expression n >>= fun e => Pure.pure (Stmt.assign ⟨t.line, target, e⟩)) := by
    intro sign hsign
    refine .bind hexpression (by simp; omega) (readsAt n).expression fun ts e h => .pure ?_ _
    have hsimple := Simple.assign (.intro ht htarget hsign h)
    exact .of_eq hsimple hsimple.endless (by simp)
  have hbegins : Begins Simple (t :: us) := (hassign (sample .assign) rfl).begins.of_sample (by decide)
  cases target with
  | «variable» l name =>
    obtain ⟨rfl, heq⟩ := htarget.eq_of_variable
    refine .accept (by decide) (fun colon _ hcolon _ => ?_) (.accept (by decide) ?_ (.check ?_ ?_))
    · refine .bind (typeExpr_halts n) (by simp) typeExpr_reads fun us type htype => ?_
      refine .expect (by decide) fun sign hsign _ => ?_
      refine .bind hexpression (by simp; omega) (readsAt n).expression fun ts e h => .pure ?_ _
      have hsimple := Simple.declare ht hcolon htype hsign h
      exact .of_eq hsimple hsimple.endless (by simp)
    · exact fun sign _ hsign _ => hassign sign hsign
    · have harguments := (haltsAt n).arguments
      refine .weaken (.bind harguments (by simp) (readsAt n).arguments fun ts args h => .pure ?_ _)
      obtain ⟨opening, us, closing, rfl, ho, h, hc⟩ := h
      exact .of_phrase (.call ht ho h hc) (by simp [ht, ho, h.endless, hc])
    · exact .reject hbegins fun _ => rfl
  | cell base position =>
    refine .check ?_ (.reject_bind hbegins fun _ => rfl)
    refine .accept (by decide) (fun colon hnext hcolon _ => ?_) (.accept (by decide) ?_ ?_)
    · rw [hcolon] at hnext
      cases hnext.2
    · exact fun sign _ hsign _ => hassign sign hsign
    · exact .of_impossible hbegins fun t ht => ht.2 ht.1.1.2

/-- Nothing yet begins a statement without a block. -/
theorem simple_begins : Begins Simple [] := by
  have hbreak : Begins Simple [sample .breakWord] := .of_phrase (.break rfl) (by simp [sample])
  exact hbreak.of_sample (by decide)

/-- A statement without a block stops by its first token. -/
theorem simple_halts (n : Nat) : Halts Simple [] n Unknown (Reader.simple n) := by
  have hname : ∀ {P}, Halts Simple [] n P (Reader.expect .identifier >>= fun name =>
      Reader.indexChain n name.line (.variable name.line name.lexeme) >>= fun target =>
        Reader.afterTarget n name target) := by
    refine .expect (by decide) fun name hname _ => ?_
    refine .bind indexChain_halts (by simp) indexChain_reads fun us target htarget => ?_
    exact (afterTarget_halts hname htarget).mono (by omega)
  refine .peek simple_begins fun t _ => ?_
  cases hkind : t.kind
  all_goals dsimp only
  case returnWord =>
    refine .advance simple_begins (fun _ h => by rw [h, hkind]; decide) fun word hword _ => ?_
    obtain rfl := hword
    refine .bind (haltsAt n).expression (by simp; omega) (readsAt n).expression fun ts e h => .pure ?_ _
    exact .of_phrase (.return hkind h) (by simp [hkind, h.endless])
  case breakWord =>
    refine .advance simple_begins (fun _ h => by rw [h, hkind]; decide) fun _ h _ => .pure ?_ _
    exact .of_phrase (.break (h ▸ hkind)) (by simp [h, hkind])
  case continueWord =>
    refine .advance simple_begins (fun _ h => by rw [h, hkind]; decide) fun _ h _ => .pure ?_ _
    exact .of_phrase (.continue (h ▸ hkind)) (by simp [h, hkind])
  all_goals exact hname

/-! ## Parts of statements -/

/-- An expression in parentheses, as a condition is written. -/
def InParens (ts : List Token) (e : Expr) : Prop :=
  ∃ opening us closing, ts = opening :: (us ++ [closing]) ∧ opening.kind = .leftParen ∧
    Expression us e ∧ closing.kind = .rightParen

/-- A condition stops in its expression or at its parentheses. -/
theorem condition_halts (n : Nat) : Halts InParens [] n Unknown (Reader.condition n) := by
  refine .expect (by decide) fun opening ho _ => ?_
  refine .bind (haltsAt n).expression (by simp; omega) (readsAt n).expression fun ts e h => ?_
  refine .expect (by decide) fun closing hc _ => .pure ?_ _
  have hparens : InParens (opening :: (ts ++ [closing])) e := ⟨opening, ts, closing, rfl, ho, h, hc⟩
  exact .of_phrase hparens (by simp [ho, h.endless, hc])

/-- A parameter stops at its name, at its type or in its default. -/
theorem param_halts (n : Nat) : Halts Parameter [] n Unknown (Reader.param n) := by
  refine .expect (by decide) fun t ht _ => ?_
  refine .expect (by decide) fun colon hcolon _ => ?_
  refine .bind (typeExpr_halts n) (by simp) typeExpr_reads fun us type htype => ?_
  have hplain := Parameter.plain ht hcolon htype
  refine .accept (by decide) (fun sign _ hsign _ => ?_) ?_
  · rw [if_pos rfl, bind_map_left]
    refine .bind (haltsAt n).expression (by simp; omega) (readsAt n).expression fun ts e h => .pure ?_ _
    have hdefault := Parameter.default ht hcolon htype hsign h
    exact .of_eq hdefault hdefault.endless (by simp)
  · rw [if_neg Bool.false_ne_true, pure_bind]
    exact .pure (.of_phrase hplain hplain.endless) _

/-- A parameter without a default is one, so nothing yet begins it. -/
theorem parameter_begins : Begins Parameter [] :=
  (param_halts 0).begins

/-- Parameters stop in one of them. -/
theorem params_halts (n : Nat) : Halts Parameters [] (n - 1) Unknown (Reader.params n) := by
  induction n with
  | zero =>
    refine .spent (parameter_begins.before fun _ _ h => ?_) (by simp)
    exact .of_phrase (.one h) h.endless
  | succ n ih =>
    rw [Reader.params]
    refine .bind (param_halts n) (by simp) param_reads fun ts p h => ?_
    refine .accept (by decide) (fun comma _ hcomma _ => ?_) (.pure (.of_phrase (.one h) h.endless) _)
    refine .bind ih (by simp; omega) params_reads fun us ps hrest => .pure ?_ _
    have hparameters := Parameters.cons h hcomma hrest
    exact .of_eq hparameters hparameters.endless (by simp)

/-- A server channel stops at one of its tokens or in its expressions. -/
theorem serverChannel_halts (n : Nat) : Halts Server [] n Unknown (Reader.serverChannel n) := by
  have hprimary := (haltsAt n).primary
  have hreads : Reads Primary (Reader.primary n) := (readsAt n).primary
  refine .expect (by decide) fun word hword _ => ?_
  refine .expect (by decide) fun name hname _ => ?_
  refine .expect (by decide) fun opening ho _ => ?_
  refine .expect (by decide) fun handler hhandler _ => ?_
  refine .expect (by decide) fun comma₁ h₁ _ => ?_
  refine .bind hprimary (by simp) hreads fun us description hdescription => ?_
  refine .expect (by decide) fun comma₂ h₂ _ => ?_
  refine .bind hprimary (by simp) hreads fun vs host hhost => ?_
  refine .expect (by decide) fun comma₃ h₃ _ => ?_
  refine .bind hprimary (by simp) hreads fun ws port hport => ?_
  refine .expect (by decide) fun closing hc _ => .pure ?_ _
  have hserver := Server.intro hword hname ho hhandler h₁ hdescription h₂ hhost h₃ hport hc
  exact .of_eq hserver (Statement.server hserver).endless (by simp)

/-- So does a client channel. -/
theorem clientChannel_halts (n : Nat) : Halts Client [] n Unknown (Reader.clientChannel n) := by
  have hprimary := (haltsAt n).primary
  have hreads : Reads Primary (Reader.primary n) := (readsAt n).primary
  refine .expect (by decide) fun word hword _ => ?_
  refine .expect (by decide) fun name hname _ => ?_
  refine .expect (by decide) fun opening ho _ => ?_
  refine .bind hprimary (by simp) hreads fun us host hhost => ?_
  refine .expect (by decide) fun comma hcomma _ => ?_
  refine .bind hprimary (by simp) hreads fun vs port hport => ?_
  refine .expect (by decide) fun closing hc _ => .pure ?_ _
  have hclient := Client.intro hword hname ho hhost hcomma hport hc
  exact .of_eq hclient (Statement.client hclient).endless (by simp)

/-- In the header of a loop: the update is refused behind its last token. -/
theorem Halts.update_bind {f : Assignment → Reader β} (hloop : OpensLoop pre) (hpre : Endless pre)
    (hm : m ≤ n + 8 * pre.length)
    (hf : ∀ ts b, Assign ts b → Halts D (pre ++ ts) m Unknown (f b)) :
    Halts D pre m P (Reader.update n >>= f) := by
  rw [Reader.update, bind_assoc]
  refine .peek ⟨hpre, .inl hloop⟩ fun start _ => ?_
  rw [bind_assoc]
  refine .weaken (.bind (simple_halts n) hm simple_reads fun ts st h => ?_)
  obtain ⟨t, ht, hkind⟩ := hloop
  have hopens : OpensLoop (pre ++ ts) := ⟨t, List.mem_append_left _ ht, hkind⟩
  have hbegins : Begins D (pre ++ ts) := ⟨Endless.append_iff.mpr ⟨hpre, h.endless⟩, .inl hopens⟩
  cases st with
  | assign b => exact hf ts b h.assign_inv
  | _ =>
    refine ⟨hbegins, ?_⟩
    intro R s e _ _ hs _ he
    cases he
    refine ⟨[], R, rfl, ?_, .update hs ?_⟩ <;> rwa [List.append_nil]

/-! ## Statements -/

/-- Nothing yet begins a statement. -/
theorem statement_begins : Begins Statement [] :=
  simple_begins.before fun _ _ h => .of_phrase (.simple h) h.endless

/-- What is to be shown of the readers of statements at the budget `n`. -/
structure StatementHaltsAt (n : Nat) : Prop where
  statements : Halts Statements [] (n - 2) Unknown (Reader.statements n)
  statement : Halts Statement [] (n - 1) Unknown (Reader.statement n)
  block : Halts Braces [] n Unknown (Reader.block n)

namespace StatementHaltsAt

/-- Statements stop in one of them. -/
theorem statements_succ (ih : StatementHaltsAt n) :
    Halts Statements [] (n + 1 - 2) Unknown (Reader.statements (n + 1)) := by
  have hbegins : Begins Statements [] := .of_phrase .none .nil
  rw [Reader.statements]
  refine .peek hbegins fun t _ => ?_
  split
  · exact .pure hbegins _
  · refine .weaken (.bind ih.statement (by simp) (statementReadsAt n).statement fun ts st h => ?_)
    have hpos := h.length_pos
    refine .bind ih.statements (by simp; omega) (statementReadsAt n).statements fun us ss hrest => ?_
    have hstatements := Statements.cons h hrest
    exact .pure (.of_phrase hstatements hstatements.endless) _

/-- A block stops at a brace or in its statements. -/
theorem block_succ (ih : StatementHaltsAt n) :
    Halts Braces [] (n + 1) Unknown (Reader.block (n + 1)) := by
  rw [Reader.block]
  refine .expect (by decide) fun opening ho _ => ?_
  refine .bind ih.statements (by simp; omega) (statementReadsAt n).statements fun ts ss h => ?_
  refine .expect (by decide) fun closing hc _ => .pure ?_ _
  have hbraces := Braces.intro ho h hc
  exact .of_phrase hbraces hbraces.endless

/-- A function behind its parameters. -/
theorem function_halts {word name opening : Token} {ps : List Param} (ih : StatementHaltsAt n)
    (hword : word.kind = .func) (hname : name.kind = .identifier) (ho : opening.kind = .leftParen)
    (hps : ParameterList us ps) :
    Halts Statement ([word, name, opening] ++ us) n Unknown (do
      let _ ← expect .rightParen
      let _ ← expect .arrow
      let returns ← typeExpr n
      let body ← Reader.block n
      return Stmt.function ⟨word.line, name.lexeme, ps, returns, body⟩) := by
  refine .expect (by decide) fun closing hc _ => ?_
  refine .expect (by decide) fun arrow harrow _ => ?_
  refine .bind (typeExpr_halts n) (by simp) typeExpr_reads fun vs type htype => ?_
  refine .bind ih.block (by simp) (statementReadsAt n).block fun ws body hbody => .pure ?_ _
  have hstatement := Statement.function hword hname ho hps hc harrow htype hbody
  exact .of_eq hstatement hstatement.endless (by simp)

/-- A loop behind the word that opens its header. Nothing is said of what was taken there. -/
theorem for_halts {word : Token} (ih : StatementHaltsAt n) (hword : word.kind = .forLoop) :
    Halts Statement [word] n Unknown (do
      let _ ← expect .leftParen
      let init ← simple n
      let _ ← expect .semicolon
      let c ← expression n
      let _ ← expect .semicolon
      let step ← update n
      let _ ← expect .rightParen
      return Stmt.for word.line init c step (← Reader.block n)) := by
  have hopens : ∀ ts, OpensLoop (word :: ts) := fun ts => ⟨word, List.mem_cons_self, hword⟩
  refine .expect (by decide) fun opening ho _ => ?_
  refine .bind (simple_halts n) (by simp) simple_reads fun us init hinit => ?_
  refine .expect (by decide) fun semi₁ h₁ _ => ?_
  refine .bind (haltsAt n).expression (by simp; omega) (readsAt n).expression fun ts e h => ?_
  refine .expect (by decide) fun semi₂ h₂ _ => ?_
  refine .update_bind (hopens _) ?_ (by simp) fun vs a hupdate => ?_
  · simp [hword, ho, hinit.endless, h₁, h.endless, h₂]
  · refine .expect (by decide) fun closing hc _ => ?_
    refine .bind ih.block (by simp) (statementReadsAt n).block fun ws body hbody => .pure ?_ _
    have hstatement := Statement.for hword ho hinit h₁ h h₂ hupdate hc hbody
    exact .of_eq hstatement hstatement.endless (by simp)

/-- A statement stops by its first token. Where that opens the header of a loop, all that follows begins a
phrase by definition. -/
theorem statement_succ (ih : StatementHaltsAt n) :
    Halts Statement [] (n + 1 - 1) Unknown (Reader.statement (n + 1)) := by
  have hblock : Reads Braces (Reader.block n) := (statementReadsAt n).block
  rw [Reader.statement]
  refine .peek statement_begins fun t _ => ?_
  cases hkind : t.kind
  all_goals dsimp only
  case func =>
    refine .advance statement_begins (fun _ h => by rw [h, hkind]; decide) fun word hword _ => ?_
    obtain rfl := hword
    refine .expect (by decide) fun name hname _ => ?_
    refine .expect (by decide) fun opening ho _ => .check ?_ ?_
    · rw [if_pos rfl, pure_bind]
      exact (ih.function_halts hkind hname ho .none).weaken
    · refine .weaken (.bind (params_halts n) (by simp; omega) params_reads fun us ps hps => ?_)
      exact ih.function_halts hkind hname ho (.some hps)
  case ifBranch =>
    refine .advance statement_begins (fun _ h => by rw [h, hkind]; decide) fun word hword _ => ?_
    obtain rfl := hword
    refine .bind (condition_halts n) (by simp) condition_reads fun _ e hparens => ?_
    obtain ⟨opening, ts, closing, rfl, ho, h, hc⟩ := hparens
    refine .bind ih.block (by simp) hblock fun us yes hyes => ?_
    have hbranch := Statement.branch hkind ho h hc hyes
    refine .accept (by decide) (fun other _ hother _ => ?_) ?_
    · refine .bind ih.block (by simp) hblock fun vs no hno => .pure ?_ _
      have hstatement := Statement.branchElse hkind ho h hc hyes hother hno
      exact .of_eq hstatement hstatement.endless (by simp)
    · exact .pure (.of_eq hbranch hbranch.endless (by simp)) _
  case whileLoop =>
    refine .advance statement_begins (fun _ h => by rw [h, hkind]; decide) fun word hword _ => ?_
    obtain rfl := hword
    refine .bind (condition_halts n) (by simp) condition_reads fun _ e hparens => ?_
    obtain ⟨opening, ts, closing, rfl, ho, h, hc⟩ := hparens
    refine .bind ih.block (by simp) hblock fun us body hbody => .pure ?_ _
    have hstatement := Statement.while hkind ho h hc hbody
    exact .of_eq hstatement hstatement.endless (by simp)
  case forLoop =>
    refine .advance statement_begins (fun _ h => by rw [h, hkind]; decide) fun word hword _ => ?_
    obtain rfl := hword
    exact ih.for_halts hkind
  case seq =>
    refine .advance statement_begins (fun _ h => by rw [h, hkind]; decide) fun word hword _ => ?_
    obtain rfl := hword
    refine .bind ih.block (by simp) hblock fun ts body hbody => .pure ?_ _
    have hstatement := Statement.seq hkind hbody
    exact .of_phrase hstatement hstatement.endless
  case par =>
    refine .advance statement_begins (fun _ h => by rw [h, hkind]; decide) fun word hword _ => ?_
    obtain rfl := hword
    refine .bind ih.block (by simp) hblock fun ts body hbody => .pure ?_ _
    have hstatement := Statement.par hkind hbody
    exact .of_phrase hstatement hstatement.endless
  case serverChannel =>
    refine .weaken (.bind (serverChannel_halts n) (by simp) serverChannel_reads fun ts c h => .pure ?_ _)
    exact .of_phrase (.server h) (Statement.server h).endless
  case clientChannel =>
    refine .weaken (.bind (clientChannel_halts n) (by simp) clientChannel_reads fun ts c h => .pure ?_ _)
    exact .of_phrase (.client h) (Statement.client h).endless
  case leftBrace =>
    refine .weaken (.bind ih.block (by simp) hblock fun ts body h => .pure ?_ _)
    exact .of_phrase (.block h) h.endless
  all_goals
    refine .last (simple_halts n).weaken (by simp) .nil fun ts st h => ?_
    exact .of_phrase (.simple h) h.endless

end StatementHaltsAt

/-- Nothing yet begins a block. -/
theorem braces_begins : Begins Braces [] := by
  have hbraces : Braces (sample .leftBrace :: ([] ++ [sample .rightBrace])) ⟨1, []⟩ :=
    .intro rfl .none rfl
  have hbegins : Begins Braces [sample .leftBrace] :=
    Begins.of_sample (.of_phrase hbraces hbraces.endless) (by decide)
  exact hbegins.of_sample (by decide)

/-- **The readers of statements stop behind the beginning of a statement**, at every budget. -/
theorem statementHaltsAt (n : Nat) : StatementHaltsAt n := by
  induction n with
  | zero =>
    exact ⟨.spent (.of_phrase .none .nil) (by simp), .spent statement_begins (by simp),
      .spent braces_begins (by simp)⟩
  | succ n ih => exact ⟨ih.statements_succ, ih.statement_succ, ih.block_succ⟩

/-! ## Programs -/

/-- Nothing stands behind an end token. -/
def ClosedByEof (R : List (Except LexError Token)) : Prop :=
  ∀ R₁ t R₂, R = R₁ ++ .ok t :: R₂ → t.kind = .eof → R₂ = []

/-- Behind the end token nothing is pulled that could be a fault. -/
theorem found_of_expect_eof {s : TokenStream} (hclosed : ClosedByEof R) (hs : Stream R s)
    (h : Reader.expect .eof s = .error e) :
    e = .grammar ⟨.expected .eof s.lookahead, s.lookahead.line, s.lookahead.span⟩ := by
  obtain h | ⟨b, s', hb, h⟩ := bind_eq_error h
  · cases h
  · obtain ⟨hkind, rfl⟩ := check_eq_ok.mp hb
    split at h
    · next hnext =>
      replace hkind : s.lookahead.kind = .eof := by simpa [hnext] using hkind
      rw [Reader.advance] at h
      cases R with
      | nil => cases hs; cases h
      | cons r R' =>
        cases r with
        | error f => cases hs
        | ok t =>
          cases hs
          cases hclosed [] t R' rfl hkind
          cases h
    · cases h
      rfl

/-- **A program that is refused is refused behind a beginning of a program**, and for the token or the
fault that stands there. -/
theorem stops_of_parseResults (hR : AllRead R) (hclosed : ClosedByEof R)
    (h : parseResults R = .error e) : Stops Statements [] R e := by
  have hhalts := (statementHaltsAt (stepBudget R.length)).statements
  rw [parseResults] at h
  cases hs : ofResults R with
  | error fault =>
    rw [hs] at h
    cases h
    cases R with
    | nil => cases hs
    | cons r R' =>
      cases r with
      | ok t => cases hs
      | error f => cases hs; exact ⟨[], _, rfl, hhalts.begins, .fault rfl⟩
  | ok s =>
    rw [hs] at h
    dsimp only at h
    cases hprogram : Reader.program (stepBudget R.length) s with
    | ok r => rw [hprogram] at h; cases h
    | error e' =>
      rw [hprogram] at h
      obtain rfl : e' = e := Except.error.inj h
      obtain he | ⟨ss, s', hss, he⟩ := bind_eq_error hprogram
      · exact hhalts.stops hR (by simp [stepBudget]; omega) hs trivial he
      · obtain ⟨ts, ⟨R', rfl, hs'⟩, hstatements⟩ := (statementReadsAt _).statements hs hss
        have hclosed' : ClosedByEof R' := fun R₁ t R₂ heq =>
          hclosed (ts.map .ok ++ R₁) t R₂ (by rw [heq, List.append_assoc])
        obtain he | ⟨_, _, -, he⟩ := bind_eq_error he
        · rw [found_of_expect_eof hclosed' hs' he]
          exact ⟨ts, R', rfl, .of_phrase hstatements hstatements.endless, .token hs' rfl⟩
        · cases he

end Grammar

end ParLang
