import ParLang.Proofs.Grammar.Reader

/-!
# What complaints are about

A reader that fails complains about one of the results that it was given: about a fault among them, or
about a token, whose line and region it names (`Blames`). The complaint about the update of a loop takes
its line from one token and its region from another. `Located R P x` says so of the reader `x` on the
results `R`, where `P` holds of the next token; results that end keep readers from running past them.
-/

namespace ParLang

namespace Reader

open TokenStream

variable {α β : Type} {R : List (Except LexError Token)} {P Q : Token → Prop} {x : Reader α}
  {s s' : TokenStream} {kind : Token.Kind} {t : Token} {n : Nat}

/-- There is an end token or a fault among the results. -/
def Ended (R : List (Except LexError Token)) : Prop :=
  ∃ r ∈ R, ∀ t, r = .ok t → t.kind = .eof

/-- The stream stands before the end of the results, and what is behind the next token ends. -/
structure Within (R : List (Except LexError Token)) (s : TokenStream) : Prop where
  suffix : .ok s.lookahead :: s.rest <:+ R
  ended : s.lookahead.kind ≠ .eof → Ended s.rest

/-- The complaint is about one of the results. -/
inductive Blames (R : List (Except LexError Token)) : ParseError → Prop where
  | fault {e} (h : .error e ∈ R) : Blames R (.lexical e)
  | token {cause t} (h : .ok t ∈ R) : Blames R (.grammar ⟨cause, t.line, t.span⟩)
  | update {start t R'} (hstart : .ok start :: R' <:+ R) (h : .ok t ∈ Except.ok start :: R') :
      Blames R (.grammar ⟨.updateNotAssignment, start.line, t.span⟩)

/-- From within the results, where `P` holds of the next token, the reader goes on within them or
complains about one of them. -/
def Located (R : List (Except LexError Token)) (P : Token → Prop) (x : Reader α) : Prop :=
  ∀ s, Within R s → P s.lookahead → match x s with
    | .ok (_, s') => Within R s'
    | .error e => Blames R e

/-- Nothing is known of the next token. -/
abbrev Unknown : Token → Prop := fun _ => True

namespace Within

/-- The token in front is one of the results. -/
theorem lookahead_mem (h : Within R s) : .ok s.lookahead ∈ R :=
  h.suffix.subset List.mem_cons_self

/-- What is behind it is a rest of the results. -/
theorem rest_suffix (h : Within R s) : s.rest <:+ R :=
  (List.suffix_cons _ _).trans h.suffix

/-- Fewer results in front do no harm. -/
theorem mono {R' : List (Except LexError Token)} (h : Within R' s) (hsuffix : R' <:+ R) : Within R s :=
  ⟨h.suffix.trans hsuffix, h.ended⟩

/-- A stream that starts at the results, or behind some of them, is within all of them. -/
theorem of_ofResults {R' : List (Except LexError Token)} (h : ofResults R' = .ok s)
    (hsuffix : R' <:+ R) (hended : Ended R') : Within R s := by
  obtain ⟨r, hr, hend⟩ := hended
  cases R' with
  | nil => cases hr
  | cons r' R' =>
    cases r' with
    | error e => cases h
    | ok t =>
      cases h
      refine ⟨hsuffix, fun ht => ?_⟩
      rcases List.mem_cons.mp hr with rfl | hr
      · exact absurd (hend t rfl) ht
      · exact ⟨r, hr, hend⟩

end Within

/-- A complaint about a part of the results is one about all of them. -/
theorem Blames.mono {R' : List (Except LexError Token)} {e : ParseError} (h : Blames R' e)
    (hsuffix : R' <:+ R) : Blames R e := by
  cases h with
  | fault h => exact .fault (hsuffix.subset h)
  | token h => exact .token (hsuffix.subset h)
  | update hstart h => exact .update (hstart.trans hsuffix) h

/-- If there is no first token then the complaint is the lexer's, and it is a result. -/
theorem error_mem_of_ofResults {R' : List (Except LexError Token)} {e : LexError}
    (h : ofResults R' = .error e) : .error e ∈ R' := by
  cases R' with
  | nil => cases h
  | cons r R' =>
    cases r with
    | error e' => cases h; exact List.mem_cons_self
    | ok t => cases h

namespace Located

/-- Knowing more of the token in front is of no use to what needs to know nothing. -/
theorem weaken (h : Located R Unknown x) : Located R P x :=
  fun s hs _ => h s hs trivial

/-- What reads nothing complains about nothing. -/
theorem pure (a : α) : Located R P (Pure.pure a : Reader α) :=
  fun _ hs _ => hs

/-- An error that may be blamed may be thrown. -/
theorem throw {e : ParseError} (h : Blames R e) : Located R P (MonadExcept.throw e : Reader α) :=
  fun _ _ _ => h

/-- A complaint about the token in front is about a token that was read. -/
theorem reject {cause : Token → SyntaxError.Cause} : Located R P (Reader.reject cause : Reader α) :=
  fun _ hs _ => .token hs.lookahead_mem

/-- Nothing is read behind a complaint. -/
theorem reject_bind {cause : Token → SyntaxError.Cause} {f : α → Reader β} :
    Located R P (Reader.reject cause >>= f) :=
  fun _ hs _ => .token hs.lookahead_mem

/-- Running out of depth is told at the token in front. -/
theorem spent : Located R P (Reader.spent : Reader α) :=
  reject

/-- A sequence: behind the first part nothing is known of the token in front. -/
theorem bind {f : α → Reader β} (hx : Located R Unknown x) (hf : ∀ a, Located R Unknown (f a)) :
    Located R P (x >>= f) := by
  intro s hs _
  have hstep := hx s hs trivial
  show match Except.bind (x s) fun r => f r.1 r.2 with
    | .ok (_, s') => Within R s'
    | .error e => Blames R e
  cases hr : x s with
  | error e => rw [hr] at hstep; exact hstep
  | ok r =>
    rw [hr] at hstep
    exact hf r.1 r.2 hstep trivial

/-- Changing what is read changes no complaint. -/
theorem map {f : α → β} (hx : Located R Unknown x) : Located R P (f <$> x) :=
  show Located R P (x >>= fun a => Pure.pure (f a)) from hx.bind fun a => .pure (f a)

/-- A look at the token in front, which is known from then on. -/
theorem peek {f : Token → Reader β} (hf : ∀ t, .ok t ∈ R → Located R (· = t) (f t)) :
    Located R P (Reader.peek >>= f) :=
  fun s hs _ => hf s.lookahead hs.lookahead_mem s hs rfl

/-- What follows may be seen as reading the results from the next token on. -/
theorem peek_from {f : Token → Reader β}
    (hf : ∀ start R', Located (.ok start :: R') (· = start) (f start)) :
    Located R P (Reader.peek >>= f) := by
  intro s hs _
  have hstep := hf s.lookahead s.rest s ⟨List.suffix_rfl, hs.ended⟩ rfl
  show match f s.lookahead s with
    | .ok (_, s') => Within R s'
    | .error e => Blames R e
  cases hr : f s.lookahead s with
  | error e => rw [hr] at hstep; exact hstep.mono hs.suffix
  | ok r => rw [hr] at hstep; exact hstep.mono hs.suffix

/-- A check of the kind in front, which is known if it is the right one. -/
theorem check {f : Bool → Reader β} (hyes : Located R (·.kind = kind) (f true))
    (hno : Located R P (f false)) : Located R P (Reader.check kind >>= f) := by
  intro s hs hP
  show match f (s.lookahead.kind == kind) s with
    | .ok (_, s') => Within R s'
    | .error e => Blames R e
  by_cases hkind : s.lookahead.kind = kind
  · rw [beq_iff_eq.mpr hkind]
    exact hyes s hs hkind
  · rw [beq_eq_false_iff_ne.mpr hkind]
    exact hno s hs hP

/-- A token is taken that is no end token, so there are results behind it. -/
theorem advance {f : Token → Reader β} (hP : ∀ t, P t → t.kind ≠ .eof)
    (hf : ∀ t, .ok t ∈ R → Located R Unknown (f t)) : Located R P (Reader.advance >>= f) := by
  intro s hs hnext
  have hended := hs.ended (hP _ hnext)
  show match Except.bind (Reader.advance s) fun r => f r.1 r.2 with
    | .ok (_, s') => Within R s'
    | .error e => Blames R e
  rw [Reader.advance]
  cases hrest : ofResults s.rest with
  | error e => exact .fault (hs.rest_suffix.subset (error_mem_of_ofResults hrest))
  | ok s' => exact hf _ hs.lookahead_mem s' (.of_ofResults hrest hs.rest_suffix hended) trivial

/-- A token that has to be there. If it is not then the one in front is to blame. -/
theorem expect {f : Token → Reader β} (hkind : kind ≠ .eof)
    (hf : ∀ t, .ok t ∈ R → Located R Unknown (f t)) : Located R P (Reader.expect kind >>= f) := by
  rw [Reader.expect, bind_assoc]
  exact check (advance (fun t ht => ht ▸ hkind) hf) reject

/-- A token that may be there. -/
theorem accept {f : Bool → Reader β} (hkind : kind ≠ .eof) (hyes : Located R Unknown (f true))
    (hno : Located R P (f false)) : Located R P (Reader.accept kind >>= f) := by
  rw [Reader.accept, bind_assoc]
  exact check (bind_assoc (m := Reader) _ _ _ ▸ advance (fun t ht => ht ▸ hkind) fun _ _ => hyes) hno

/-! ## Expressions -/

/-- A number, or a complaint about the token that is none. -/
theorem number : Located R Unknown Reader.number := by
  refine expect (by decide) fun whole hwhole => ?_
  refine bind ?_ fun text => ?_
  · refine accept (by decide) ?_ (pure _)
    exact check (advance (fun t ht => by rw [ht]; decide) fun _ _ => pure _) reject
  · split
    · exact pure _
    · exact throw (.token hwhole)

end Located

/-- What is to be shown of the readers of expressions at the budget `n`. -/
structure LocatedAt (R : List (Except LexError Token)) (n : Nat) : Prop where
  expression : Located R Unknown (Reader.expression n)
  binary : ∀ least, Located R Unknown (Reader.binary n least)
  climb : ∀ least left, Located R Unknown (Reader.climb n least left)
  unary : Located R Unknown (Reader.unary n)
  primary : Located R Unknown (Reader.primary n)
  arguments : Located R Unknown (Reader.arguments n)
  expressions : Located R Unknown (Reader.expressions n)

namespace LocatedAt

/-- An operand and what follows it. -/
theorem binary_succ (ih : LocatedAt R n) (least : Nat) :
    Located R Unknown (Reader.binary (n + 1) least) := by
  rw [Reader.binary]
  exact .bind ih.unary fun left => ih.climb least left

/-- An operator with its right operand, or none. -/
theorem climb_succ (ih : LocatedAt R n) (least : Nat) (left : Expr) :
    Located R Unknown (Reader.climb (n + 1) least left) := by
  rw [Reader.climb]
  refine .peek fun t ht => ?_
  cases hop : binaryOp? t.kind with
  | none => exact .pure _
  | some op =>
    dsimp only
    split
    · have heof : t.kind ≠ .eof := fun heof => by rw [heof] at hop; cases hop
      refine .advance (fun _ h => h ▸ heof) fun sign _ => ?_
      exact .bind (ih.binary _) fun right => ih.climb _ _
    · exact .pure _

/-- An operator in front, or none. -/
theorem unary_succ (ih : LocatedAt R n) : Located R Unknown (Reader.unary (n + 1)) := by
  rw [Reader.unary]
  refine .peek fun t ht => ?_
  cases hop : unaryOp? t.kind with
  | none => exact ih.primary.weaken
  | some op =>
    have heof : t.kind ≠ .eof := fun heof => by rw [heof] at hop; cases hop
    exact .advance (fun _ h => h ▸ heof) fun sign _ => .bind ih.unary fun _ => .pure _

/-- An expression by its first token. -/
theorem primary_succ (ih : LocatedAt R n) : Located R Unknown (Reader.primary (n + 1)) := by
  rw [Reader.primary]
  refine .peek fun t ht => ?_
  cases hkind : t.kind
  all_goals dsimp only
  case number => exact Located.number.weaken
  case string | trueWord | falseWord =>
    exact .advance (fun _ h => by rw [h, hkind]; decide) fun _ _ => .pure _
  case identifier =>
    refine .advance (fun _ h => by rw [h, hkind]; decide) fun name _ => ?_
    refine .check (Located.weaken (.bind ih.arguments fun _ => .pure _)) ?_
    refine .accept (by decide) ?_ (.pure _)
    exact .bind ih.expression fun _ => .expect (by decide) fun _ _ => .pure _
  case leftBracket =>
    refine .advance (fun _ h => by rw [h, hkind]; decide) fun opening _ => ?_
    have hclose : ∀ items, Located R Unknown (Reader.expect .rightBracket >>= fun _ =>
        Pure.pure (Expr.array opening.line items)) :=
      fun items => .expect (by decide) fun _ _ => .pure _
    exact .check (.bind (.pure _) hclose) (.bind ih.expressions hclose)
  case leftParen =>
    refine .advance (fun _ h => by rw [h, hkind]; decide) fun _ _ => ?_
    exact .bind ih.expression fun _ => .expect (by decide) fun _ _ => .pure _
  all_goals exact .reject

/-- Arguments in parentheses. -/
theorem arguments_succ (ih : LocatedAt R n) : Located R Unknown (Reader.arguments (n + 1)) := by
  rw [Reader.arguments]
  refine .expect (by decide) fun _ _ => .accept (by decide) (.pure _) ?_
  exact .bind ih.expressions fun _ => .expect (by decide) fun _ _ => .pure _

/-- Expressions with commas between. -/
theorem expressions_succ (ih : LocatedAt R n) : Located R Unknown (Reader.expressions (n + 1)) := by
  rw [Reader.expressions]
  refine .bind ih.expression fun first => .accept (by decide) ?_ (.pure _)
  exact .bind ih.expressions fun _ => .pure _

end LocatedAt

/-- The readers of expressions complain about tokens that were read, at every depth. -/
theorem locatedAt (R : List (Except LexError Token)) : ∀ n, LocatedAt R n
  | 0 =>
    ⟨.spent, fun _ => .spent, fun _ _ => .spent, .spent, .spent, .spent, .spent⟩
  | n + 1 =>
    have ih := locatedAt R n
    ⟨ih.binary 1, ih.binary_succ, ih.climb_succ, ih.unary_succ, ih.primary_succ, ih.arguments_succ,
      ih.expressions_succ⟩

/-! ## Types and simple statements -/

/-- A type, with its brackets. -/
theorem typeExpr_located : ∀ n, Located R Unknown (Reader.typeExpr n)
  | 0 => .spent
  | n + 1 => by
    rw [Reader.typeExpr]
    refine .accept (by decide) ?_ ?_
    · exact .bind (typeExpr_located n) fun _ => .expect (by decide) fun _ _ => .pure _
    · exact .check (.advance (fun t ht => by rw [ht]; decide) fun _ _ => .pure _) .reject

/-- The indexes behind a name. -/
theorem indexChain_located : ∀ n line target, Located R Unknown (Reader.indexChain n line target)
  | 0, _, _ => .spent
  | n + 1, line, target => by
    rw [Reader.indexChain]
    refine .accept (by decide) ?_ (.pure _)
    refine .bind (locatedAt R n).expression fun _ => .expect (by decide) fun _ _ => ?_
    exact indexChain_located n line _

/-- What follows the name at the start of a statement: a type or a value. -/
theorem afterTarget_located (n : Nat) (name : Token) (target : Target) :
    Located R Unknown (Reader.afterTarget n name target) := by
  have hexpression := (locatedAt R n).expression
  cases target
  -- Behind an index the sign of an assignment is asked for first.
  case' cell => refine .check ?_ .reject_bind
  all_goals refine .accept (by decide) ?_ (.accept (by decide) ?_ (.check ?_ .reject))
  case «variable».refine_1 | cell.refine_1 =>
    refine .bind (typeExpr_located n) fun _ => .expect (by decide) fun _ _ => ?_
    exact .bind hexpression fun _ => .pure _
  case «variable».refine_2 | cell.refine_2 => exact .bind hexpression fun _ => .pure _
  case «variable».refine_3 | cell.refine_3 =>
    exact .bind (locatedAt R n).arguments fun _ => .pure _

/-- A statement without a block of its own. -/
theorem simple_located (n : Nat) : Located R Unknown (Reader.simple n) := by
  have hname : ∀ {P}, Located R P (Reader.expect .identifier >>= fun name =>
      Reader.indexChain n name.line (.variable name.line name.lexeme) >>= fun target =>
        Reader.afterTarget n name target) := by
    refine .expect (by decide) fun name _ => ?_
    exact .bind (indexChain_located n _ _) fun target => afterTarget_located n name target
  refine .peek fun t ht => ?_
  cases hkind : t.kind
  all_goals dsimp only
  case returnWord =>
    refine .advance (fun _ h => by rw [h, hkind]; decide) fun word _ => ?_
    exact .bind (locatedAt R n).expression fun _ => .pure _
  case breakWord | continueWord =>
    exact .advance (fun _ h => by rw [h, hkind]; decide) fun _ _ => .pure _
  all_goals exact hname

/-! ## Statements -/

/-- A condition in parentheses. -/
theorem condition_located (n : Nat) : Located R Unknown (Reader.condition n) := by
  refine .expect (by decide) fun _ _ => .bind (locatedAt R n).expression fun _ => ?_
  exact .expect (by decide) fun _ _ => .pure _

/-- A parameter with its type and perhaps its default. -/
theorem param_located (n : Nat) : Located R Unknown (Reader.param n) := by
  refine .expect (by decide) fun name _ => .expect (by decide) fun _ _ => ?_
  refine .bind (typeExpr_located n) fun type => .accept (by decide) ?_ ?_
  · exact .bind (.map (locatedAt R n).expression) fun _ => .pure _
  · exact .bind (.pure _) fun _ => .pure _

/-- Parameters with commas between. -/
theorem params_located : ∀ n, Located R Unknown (Reader.params n)
  | 0 => .spent
  | n + 1 => by
    rw [Reader.params]
    refine .bind (param_located n) fun first => .accept (by decide) ?_ (.pure _)
    exact .bind (params_located n) fun _ => .pure _

/-- A server channel with its host and port. -/
theorem serverChannel_located (n : Nat) : Located R Unknown (Reader.serverChannel n) := by
  have hprimary := (locatedAt R n).primary
  refine .expect (by decide) fun _ _ => .expect (by decide) fun _ _ => ?_
  refine .expect (by decide) fun _ _ => .expect (by decide) fun _ _ => .expect (by decide) fun _ _ => ?_
  refine .bind hprimary fun _ => .expect (by decide) fun _ _ => ?_
  refine .bind hprimary fun _ => .expect (by decide) fun _ _ => ?_
  exact .bind hprimary fun _ => .expect (by decide) fun _ _ => .pure _

/-- A client channel with its host and port. -/
theorem clientChannel_located (n : Nat) : Located R Unknown (Reader.clientChannel n) := by
  have hprimary := (locatedAt R n).primary
  refine .expect (by decide) fun _ _ => .expect (by decide) fun _ _ => .expect (by decide) fun _ _ => ?_
  refine .bind hprimary fun _ => .expect (by decide) fun _ _ => ?_
  exact .bind hprimary fun _ => .expect (by decide) fun _ _ => .pure _

/-- The complaint about an update takes its line from where the update starts. -/
theorem update_located (n : Nat) : Located R Unknown (Reader.update n) := by
  refine .peek_from fun start R' => .bind (simple_located n) fun s => ?_
  cases s
  case assign a => exact .pure a
  all_goals exact .peek fun t ht => .throw (.update List.suffix_rfl ht)

/-- What is to be shown of the readers of statements at the budget `n`. -/
structure StatementLocatedAt (R : List (Except LexError Token)) (n : Nat) : Prop where
  statements : Located R Unknown (Reader.statements n)
  statement : Located R Unknown (Reader.statement n)
  block : Located R Unknown (Reader.block n)

namespace StatementLocatedAt

/-- Statements up to the end of a block. -/
theorem statements_succ (ih : StatementLocatedAt R n) :
    Located R Unknown (Reader.statements (n + 1)) := by
  rw [Reader.statements]
  refine .peek fun t ht => ?_
  split
  · exact .pure _
  · exact .bind ih.statement fun _ => .bind ih.statements fun _ => .pure _

/-- A block in braces. -/
theorem block_succ (ih : StatementLocatedAt R n) : Located R Unknown (Reader.block (n + 1)) := by
  rw [Reader.block]
  refine .expect (by decide) fun opening _ => .bind ih.statements fun _ => ?_
  exact .expect (by decide) fun _ _ => .pure _

/-- A statement by its first token. -/
theorem statement_succ (ih : StatementLocatedAt R n) :
    Located R Unknown (Reader.statement (n + 1)) := by
  rw [Reader.statement]
  refine .peek fun t ht => ?_
  cases hkind : t.kind
  all_goals dsimp only
  case func =>
    refine .advance (fun _ h => by rw [h, hkind]; decide) fun word _ => ?_
    refine .expect (by decide) fun name _ => .expect (by decide) fun _ _ => ?_
    have hbehind : ∀ ps, Located R Unknown (Reader.expect .rightParen >>= fun _ =>
        Reader.expect .arrow >>= fun _ => Reader.typeExpr n >>= fun returns => Reader.block n >>=
          fun body => Pure.pure (Stmt.function ⟨word.line, name.lexeme, ps, returns, body⟩)) := by
      refine fun ps => .expect (by decide) fun _ _ => .expect (by decide) fun _ _ => ?_
      exact .bind (typeExpr_located n) fun _ => .bind ih.block fun _ => .pure _
    exact .check (.bind (.pure _) hbehind) (.bind (params_located n) hbehind)
  case ifBranch =>
    refine .advance (fun _ h => by rw [h, hkind]; decide) fun word _ => ?_
    refine .bind (condition_located n) fun _ => .bind ih.block fun _ => .accept (by decide) ?_ (.pure _)
    exact .bind ih.block fun _ => .pure _
  case whileLoop =>
    refine .advance (fun _ h => by rw [h, hkind]; decide) fun word _ => ?_
    exact .bind (condition_located n) fun _ => .bind ih.block fun _ => .pure _
  case forLoop =>
    refine .advance (fun _ h => by rw [h, hkind]; decide) fun word _ => .expect (by decide) fun _ _ => ?_
    refine .bind (simple_located n) fun _ => .expect (by decide) fun _ _ => ?_
    refine .bind (locatedAt R n).expression fun _ => .expect (by decide) fun _ _ => ?_
    refine .bind (update_located n) fun _ => .expect (by decide) fun _ _ => ?_
    exact .bind ih.block fun _ => .pure _
  case seq | par =>
    refine .advance (fun _ h => by rw [h, hkind]; decide) fun word _ => ?_
    exact .bind ih.block fun _ => .pure _
  case serverChannel => exact .bind (serverChannel_located n) fun _ => .pure _
  case clientChannel => exact .bind (clientChannel_located n) fun _ => .pure _
  case leftBrace => exact .bind ih.block fun _ => .pure _
  all_goals exact (simple_located n).weaken

end StatementLocatedAt

/-- So do the readers of statements. -/
theorem statementLocatedAt (R : List (Except LexError Token)) : ∀ n, StatementLocatedAt R n
  | 0 => ⟨.spent, .spent, .spent⟩
  | n + 1 =>
    have ih := statementLocatedAt R n
    ⟨ih.statements_succ, ih.statement_succ, ih.block_succ⟩

/-! ## Programs -/

/-- Where a sequence fails one of its parts does. -/
theorem bind_eq_error {f : α → Reader β} {e : ParseError} (h : (x >>= f) s = .error e) :
    x s = .error e ∨ ∃ a s', x s = .ok (a, s') ∧ f a s' = .error e := by
  replace h : (Except.bind (x s) fun r => f r.1 r.2) = .error e := h
  cases hx : x s with
  | error e' => rw [hx] at h; cases h; exact .inl rfl
  | ok r => rw [hx] at h; exact .inr ⟨r.1, r.2, rfl, h⟩

/-- What a located reader complains about is to blame in the stream that it reads. -/
theorem Located.blames {e : ParseError} (hx : Located R Unknown x) (hs : Within R s)
    (h : x s = .error e) : Blames R e := by
  have hstep := hx s hs trivial
  rwa [h] at hstep

/-- The end token is taken too, and what is pulled behind it may be a fault. -/
theorem blames_of_expect_eof {e : ParseError} (hs : Within R s)
    (h : Reader.expect .eof s = .error e) : Blames R e := by
  obtain h | ⟨b, s', hb, h⟩ := bind_eq_error h
  · cases h
  · obtain ⟨-, rfl⟩ := check_eq_ok.mp hb
    split at h
    · rw [Reader.advance] at h
      split at h
      · cases h
      · next hrest =>
        cases h
        exact .fault (hs.rest_suffix.subset (error_mem_of_ofResults hrest))
    · cases h
      exact .token hs.lookahead_mem

/-- A program is read up to the end of the source, and what is behind it is to blame too. -/
theorem blames_of_program {e : ParseError} (hs : Within R s) (h : Reader.program n s = .error e) :
    Blames R e := by
  have hstatements := (statementLocatedAt R n).statements
  obtain h | ⟨body, s', hbody, h⟩ := bind_eq_error h
  · exact hstatements.blames hs h
  · have hwithin := hstatements s hs trivial
    rw [hbody] at hwithin
    obtain h | ⟨_, _, -, h⟩ := bind_eq_error h
    · exact blames_of_expect_eof hwithin h
    · cases h

end Reader

open Reader TokenStream

/-- **A complaint about results that end is about one of them.** -/
theorem blames_of_parseResults {R : List (Except LexError Token)} {e : ParseError} (hended : Ended R)
    (h : parseResults R = .error e) : Blames R e := by
  rw [parseResults] at h
  cases hs : ofResults R with
  | error fault =>
    rw [hs] at h
    cases h
    exact .fault (error_mem_of_ofResults hs)
  | ok s =>
    rw [hs] at h
    dsimp only at h
    have hwithin : Within R s := .of_ofResults hs List.suffix_rfl hended
    cases hprogram : Reader.program (stepBudget R.length) s with
    | ok r => rw [hprogram] at h; cases h
    | error e' =>
      rw [hprogram] at h
      cases h
      exact blames_of_program hwithin hprogram

end ParLang
