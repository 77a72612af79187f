import Mathlib.Data.List.Basic
import ParLang.Proofs.Grammar.Prefixes

/-!
# Readers see one token ahead

What a reader does depends on the tokens that it takes and on the one behind them, and not on what stands
behind that one. `Mimics P x y` says so: where `P` holds of the next token, the reader `y` does on other
results what `x` did, if they agree with those of `x` up to the token where `x` stood in the end. The two
readers may have different budgets: a complaint about a token that was found is not changed by more steps.

So a token that was refused behind some others is refused behind them whatever follows
(`parseResults_ne_ok_of_refused`).
-/

namespace ParLang

namespace Grammar

open Reader TokenStream

variable {α β : Type} {R R₁ R₂ : List (Except LexError Token)} {P : Token → Prop} {s s' s₁ s₂ : TokenStream}
  {ts us : List Token} {x y : Reader α} {kind : Token.Kind} {n m : Nat}

/-- The tokens `ts` are followed by a next token, and so is everything before them. -/
theorem exists_stream (ts : List Token) (h : Stream R s) : ∃ s₁, Stream (ts.map .ok ++ R) s₁ := by
  cases ts with
  | nil => exact ⟨s, h⟩
  | cons t ts =>
    refine ⟨⟨t, ts.map .ok ++ R⟩, ?_⟩
    rfl

/-- Results that agree up to a token have the same next token. -/
theorem Took.lookahead_eq (h : Took R ts s') (hs : Stream R s) (hs₁ : Stream (ts.map .ok ++ R₂) s₁)
    (hs₂ : Stream R₂ s₂) (hnext : s₂.lookahead = s'.lookahead) : s₁.lookahead = s.lookahead := by
  obtain ⟨R', rfl, hs'⟩ := h
  cases ts with
  | nil =>
    obtain rfl := Except.ok.inj (hs₁.symm.trans hs₂)
    obtain rfl := Except.ok.inj (hs.symm.trans hs')
    exact hnext
  | cons t ts =>
    obtain rfl := Except.ok.inj hs
    obtain rfl := Except.ok.inj hs₁
    rfl

/-- On results that agree with others up to where `s'` stands, behind the tokens `ts`, the reader gives
what `out` says of the stream there. -/
def Answers (y : Reader α) (ts : List Token) (s' : TokenStream)
    (out : TokenStream → Except ParseError (α × TokenStream)) : Prop :=
  ∀ {R₂ s₁ s₂}, Stream (ts.map .ok ++ R₂) s₁ → Stream R₂ s₂ → s₂.lookahead = s'.lookahead → y s₁ = out s₂

/-- Answers compose: the second reader starts where the first one stood. -/
theorem Answers.bind {g : α → Reader β} {a : α}
    {out : TokenStream → Except ParseError (β × TokenStream)}
    (hy : Answers y ts s fun s₂ => .ok (a, s₂)) (hs : Stream R s) (htook : Took R us s')
    (hg : Answers (g a) us s' out) : Answers (y >>= g) (ts ++ us) s' out := by
  intro R₂ s₁ s₂ hs₁ hs₂ hnext
  obtain ⟨v, hv⟩ := exists_stream us hs₂
  rw [List.map_append, List.append_assoc] at hs₁
  rw [bind_apply_ok (hy hs₁ hv (htook.lookahead_eq hs hv hs₂ hnext))]
  exact hg hv hs₂ hnext

/-- The reader `y` gives what `x` gave, on results that agree up to the token where `x` stood then. Of
the complaints only those about a token found are repeated. -/
structure Mimics (P : Token → Prop) (x y : Reader α) : Prop where
  succeeds : ∀ {R s a s'}, Stream R s → P s.lookahead → x s = .ok (a, s') →
    ∃ ts, Took R ts s' ∧ Endless ts ∧ Answers y ts s' fun s₂ => .ok (a, s₂)
  refuses : ∀ {R s e t}, Stream R s → P s.lookahead → x s = .error (.grammar e) →
    e.cause.found? = some t → ∃ ts s', Took R ts s' ∧ Endless ts ∧ s'.lookahead = t ∧
      Answers y ts s' fun _ => .error (.grammar e)

namespace Mimics

/-- Knowing more of the next token is no harm. -/
theorem imp {Q : Token → Prop} (h : Mimics Q x y) (hPQ : ∀ t, P t → Q t) : Mimics P x y :=
  ⟨fun hs hP => h.succeeds hs (hPQ _ hP), fun hs hP => h.refuses hs (hPQ _ hP)⟩

/-- What needs to know nothing of the next token may be used where something is known. -/
theorem weaken (h : Mimics Unknown x y) : Mimics P x y :=
  h.imp fun _ _ => trivial

/-- What reads nothing gives the same on every stream. -/
theorem pure (a : α) : Mimics P (Pure.pure a : Reader α) (Pure.pure a) := by
  constructor
  · intro R s a' s' hs _ h
    obtain ⟨rfl, rfl⟩ := pure_eq_ok.mp h
    refine ⟨[], .nil hs, .nil, ?_⟩
    intro R₂ s₁ s₂ hs₁ hs₂ _
    obtain rfl := Except.ok.inj (hs₁.symm.trans hs₂)
    rfl
  · intro R s e t _ _ h
    cases h

/-- A complaint that is not about a token found is not repeated. -/
theorem throw {e : SyntaxError} (he : e.cause.found? = none) :
    Mimics P (MonadExcept.throw (.grammar e) : Reader α) y := by
  constructor
  · intro R s a s' _ _ h
    cases h
  · intro R s e' t _ _ h hfound
    cases h
    rw [he] at hfound
    cases hfound

/-- A complaint about a spent budget is about no token found, so nothing is asked of the other reader. -/
theorem spent : Mimics P (Reader.spent : Reader α) y := by
  constructor
  · intro R s a s' _ _ h
    cases h
  · intro R s e t _ _ h hfound
    cases h
    cases hfound

/-- A complaint about the next token is repeated, for that token is the same. -/
theorem reject {cause : Token → SyntaxError.Cause} (hcause : ∀ t, (cause t).found? = some t) :
    Mimics P (Reader.reject cause : Reader α) (Reader.reject cause) := by
  constructor
  · intro R s a s' _ _ h
    cases h
  · intro R s e t hs _ h hfound
    cases h
    obtain rfl := Option.some.inj ((hcause _).symm.trans hfound)
    refine ⟨[], s, .nil hs, .nil, rfl, ?_⟩
    intro R₂ s₁ s₂ hs₁ hs₂ hnext
    obtain rfl := Except.ok.inj (hs₁.symm.trans hs₂)
    simp only [Reader.reject, hnext]

/-- A sequence repeats part by part: behind the first part nothing is known of the next token. -/
theorem bind {f g : α → Reader β} (hx : Mimics P x y) (hf : ∀ a, Mimics Unknown (f a) (g a)) :
    Mimics P (x >>= f) (y >>= g) := by
  constructor
  · intro R s b s' hs hP h
    obtain ⟨a, s₁, ha, hb⟩ := bind_eq_ok.mp h
    obtain ⟨ts, ⟨R₁, rfl, hs₁⟩, hts, hanswers⟩ := hx.succeeds hs hP ha
    obtain ⟨us, htook, hus, hanswers'⟩ := (hf a).succeeds hs₁ trivial hb
    exact ⟨ts ++ us, htook.append, Endless.append_iff.mpr ⟨hts, hus⟩, hanswers.bind hs₁ htook hanswers'⟩
  · intro R s e t hs hP h hfound
    obtain h | ⟨a, s₁, ha, h⟩ := bind_eq_error h
    · obtain ⟨ts, s', htook, hts, hnext, hanswers⟩ := hx.refuses hs hP h hfound
      refine ⟨ts, s', htook, hts, hnext, ?_⟩
      intro R₂ s₁ s₂ hs₁ hs₂ hnext'
      show (Except.bind (y s₁) fun r => g r.1 r.2) = _
      rw [hanswers hs₁ hs₂ hnext']
      rfl
    · obtain ⟨ts, ⟨R₁, rfl, hs₁⟩, hts, hanswers⟩ := hx.succeeds hs hP ha
      obtain ⟨us, s', htook, hus, hnext, hanswers'⟩ := (hf a).refuses hs₁ trivial h hfound
      exact ⟨ts ++ us, s', htook.append, Endless.append_iff.mpr ⟨hts, hus⟩, hnext,
        hanswers.bind hs₁ htook hanswers'⟩

/-- Changing what is read changes nothing of what is taken. -/
theorem map {f : α → β} (hx : Mimics P x y) : Mimics P (f <$> x) (f <$> y) :=
  show Mimics P (x >>= fun a => Pure.pure (f a)) (y >>= fun a => Pure.pure (f a)) from
    hx.bind fun a => .pure (f a)

/-- Nothing is read behind a complaint. -/
theorem reject_bind {cause : Token → SyntaxError.Cause} {f g : α → Reader β}
    (hcause : ∀ t, (cause t).found? = some t) :
    Mimics P (Reader.reject cause >>= f) (Reader.reject cause >>= g) := by
  have hreject : Mimics P (Reader.reject cause : Reader β) (Reader.reject cause) := reject hcause
  exact ⟨hreject.succeeds, hreject.refuses⟩

/-- A look at the next token. What is read then may depend on it. -/
theorem of_next {f g : Token → Reader α}
    (hx : ∀ s, x s = f s.lookahead s) (hy : ∀ s, y s = g s.lookahead s)
    (hf : ∀ t, P t → Mimics (· = t) (f t) (g t)) : Mimics P x y := by
  constructor
  · intro R s a s' hs hP h
    rw [hx] at h
    obtain ⟨ts, htook, hts, hanswers⟩ := (hf _ hP).succeeds hs rfl h
    refine ⟨ts, htook, hts, ?_⟩
    intro R₂ s₁ s₂ hs₁ hs₂ hnext
    rw [hy, htook.lookahead_eq hs hs₁ hs₂ hnext]
    exact hanswers hs₁ hs₂ hnext
  · intro R s e t hs hP h hfound
    rw [hx] at h
    obtain ⟨ts, s', htook, hts, hat, hanswers⟩ := (hf _ hP).refuses hs rfl h hfound
    refine ⟨ts, s', htook, hts, hat, ?_⟩
    intro R₂ s₁ s₂ hs₁ hs₂ hnext
    rw [hy, htook.lookahead_eq hs hs₁ hs₂ hnext]
    exact hanswers hs₁ hs₂ hnext

/-- A look at the next token sees the same one on both streams. -/
theorem peek {f g : Token → Reader β} (hf : ∀ t, P t → Mimics (· = t) (f t) (g t)) :
    Mimics P (Reader.peek >>= f) (Reader.peek >>= g) :=
  of_next (fun _ => rfl) (fun _ => rfl) hf

/-- A check of the kind comes out the same on both streams. -/
theorem check {f g : Bool → Reader β} (hyes : Mimics (·.kind = kind) (f true) (g true))
    (hno : Mimics P (f false) (g false)) :
    Mimics P (Reader.check kind >>= f) (Reader.check kind >>= g) := by
  refine of_next (f := fun t => f (t.kind == kind)) (g := fun t => g (t.kind == kind))
    (fun _ => rfl) (fun _ => rfl) fun t ht => ?_
  by_cases hkind : t.kind = kind
  · rw [beq_iff_eq.mpr hkind]
    exact hyes.imp fun u hu => hu ▸ hkind
  · rw [beq_eq_false_iff_ne.mpr hkind]
    exact hno.imp fun u hu => hu ▸ ht

/-- A token that is taken is the same one on both streams, if it is not the end of them. -/
theorem advance {f g : Token → Reader β} (hP : ∀ t, P t → t.kind ≠ .eof)
    (hf : ∀ t, Mimics Unknown (f t) (g t)) :
    Mimics P (Reader.advance >>= f) (Reader.advance >>= g) := by
  refine bind ⟨?_, ?_⟩ hf
  · intro R s t s' hs hnext h
    obtain ⟨rfl, R', rfl, hs'⟩ := eq_cons_of_advance hs h (hP _ hnext)
    refine ⟨[s.lookahead], ⟨R', rfl, hs'⟩, by simpa using hP _ hnext, ?_⟩
    intro R₂ s₁ s₂ hs₁ hs₂ _
    obtain rfl := Except.ok.inj hs₁
    have hrest : ofResults R₂ = .ok s₂ := hs₂
    simp only [Reader.advance, List.map_nil, List.append_eq, List.nil_append, hrest]
  · intro R s e t _ _ h
    rw [Reader.advance] at h
    split at h <;> cases h

/-- A token that has to be there is there on both streams, or the complaint is repeated. -/
theorem expect {f g : Token → Reader β} (hkind : kind ≠ .eof) (hf : ∀ t, Mimics Unknown (f t) (g t)) :
    Mimics P (Reader.expect kind >>= f) (Reader.expect kind >>= g) := by
  rw [Reader.expect, bind_assoc, bind_assoc]
  exact check (advance (fun t ht => ht ▸ hkind) hf) (reject_bind fun _ => rfl)

/-- A token that may be there is there on both streams or on neither. -/
theorem accept {f g : Bool → Reader β} (hkind : kind ≠ .eof) (hyes : Mimics Unknown (f true) (g true))
    (hno : Mimics P (f false) (g false)) :
    Mimics P (Reader.accept kind >>= f) (Reader.accept kind >>= g) := by
  rw [Reader.accept, bind_assoc, bind_assoc]
  have htaken : Mimics (·.kind = kind) (Reader.advance >>= fun _ => f true)
      (Reader.advance >>= fun _ => g true) := advance (fun t ht => ht ▸ hkind) fun _ => hyes
  refine check ?_ hno
  simpa only [if_true, bind_assoc, pure_bind] using htaken

end Mimics

/-! ## Expressions -/

/-- A number, with at most two tokens more behind its first. -/
theorem number_mimics : Mimics Unknown Reader.number Reader.number := by
  refine .expect (by decide) fun whole => .bind ?_ fun text => ?_
  · refine .accept (by decide) ?_ (.pure _)
    exact .check (.advance (fun t ht => by rw [ht]; decide) fun _ => .pure _) (.reject fun _ => rfl)
  · split
    · exact .pure _
    · exact .throw rfl

/-- What is to be shown of the readers of expressions at the budgets `n` and `m`. -/
structure MimicsAt (n m : Nat) : Prop where
  expression : Mimics Unknown (Reader.expression n) (Reader.expression m)
  binary : ∀ least, Mimics Unknown (Reader.binary n least) (Reader.binary m least)
  climb : ∀ least left, Mimics Unknown (Reader.climb n least left) (Reader.climb m least left)
  unary : Mimics Unknown (Reader.unary n) (Reader.unary m)
  primary : Mimics Unknown (Reader.primary n) (Reader.primary m)
  arguments : Mimics Unknown (Reader.arguments n) (Reader.arguments m)
  expressions : Mimics Unknown (Reader.expressions n) (Reader.expressions m)

namespace MimicsAt

/-- An operand and what follows it. -/
theorem binary_succ (ih : MimicsAt n m) (least : Nat) :
    Mimics Unknown (Reader.binary (n + 1) least) (Reader.binary (m + 1) least) := by
  rw [Reader.binary, Reader.binary]
  exact .bind ih.unary fun left => ih.climb least left

/-- The loop over operators stops at the same token, since it stops at one that it sees. -/
theorem climb_succ (ih : MimicsAt n m) (least : Nat) (left : Expr) :
    Mimics Unknown (Reader.climb (n + 1) least left) (Reader.climb (m + 1) least left) := by
  rw [Reader.climb, Reader.climb]
  refine .peek fun t _ => ?_
  cases hop : binaryOp? t.kind with
  | none => exact .pure _
  | some op =>
    dsimp only
    split
    · have heof : t.kind ≠ .eof := fun heof => by rw [heof] at hop; cases hop
      refine .advance (fun _ h => h ▸ heof) fun sign => ?_
      exact .bind (ih.binary _) fun right => ih.climb _ _
    · exact .pure _

/-- An operator in front, or none. -/
theorem unary_succ (ih : MimicsAt n m) :
    Mimics Unknown (Reader.unary (n + 1)) (Reader.unary (m + 1)) := by
  rw [Reader.unary, Reader.unary]
  refine .peek fun t _ => ?_
  cases hop : unaryOp? t.kind with
  | none => exact ih.primary.weaken
  | some op =>
    have heof : t.kind ≠ .eof := fun heof => by rw [heof] at hop; cases hop
    exact .advance (fun _ h => h ▸ heof) fun sign => .bind ih.unary fun _ => .pure _

/-- An operand by its first token. -/
theorem primary_succ (ih : MimicsAt n m) :
    Mimics Unknown (Reader.primary (n + 1)) (Reader.primary (m + 1)) := by
  rw [Reader.primary, Reader.primary]
  refine .peek fun t _ => ?_
  cases hkind : t.kind
  all_goals dsimp only
  case number => exact number_mimics.weaken
  case string | trueWord | falseWord =>
    exact .advance (fun _ h => by rw [h, hkind]; decide) fun _ => .pure _
  case identifier =>
    refine .advance (fun _ h => by rw [h, hkind]; decide) fun name => ?_
    refine .check (Mimics.weaken (.bind ih.arguments fun _ => .pure _)) ?_
    refine .accept (by decide) ?_ (.pure _)
    exact .bind ih.expression fun _ => .expect (by decide) fun _ => .pure _
  case leftBracket =>
    refine .advance (fun _ h => by rw [h, hkind]; decide) fun opening => ?_
    have hclose : ∀ items, Mimics Unknown (Reader.expect .rightBracket >>= fun _ =>
        Pure.pure (Expr.array opening.line items)) (Reader.expect .rightBracket >>= fun _ =>
        Pure.pure (Expr.array opening.line items)) :=
      fun items => .expect (by decide) fun _ => .pure _
    exact .check (.bind (.pure _) hclose) (.bind ih.expressions hclose)
  case leftParen =>
    refine .advance (fun _ h => by rw [h, hkind]; decide) fun _ => ?_
    exact .bind ih.expression fun _ => .expect (by decide) fun _ => .pure _
  all_goals exact .reject fun _ => rfl

/-- Arguments in parentheses. -/
theorem arguments_succ (ih : MimicsAt n m) :
    Mimics Unknown (Reader.arguments (n + 1)) (Reader.arguments (m + 1)) := by
  rw [Reader.arguments, Reader.arguments]
  refine .expect (by decide) fun _ => .accept (by decide) (.pure _) ?_
  exact .bind ih.expressions fun _ => .expect (by decide) fun _ => .pure _

/-- Expressions with commas between. -/
theorem expressions_succ (ih : MimicsAt n m) :
    Mimics Unknown (Reader.expressions (n + 1)) (Reader.expressions (m + 1)) := by
  rw [Reader.expressions, Reader.expressions]
  refine .bind ih.expression fun first => .accept (by decide) ?_ (.pure _)
  exact .bind ih.expressions fun _ => .pure _

end MimicsAt

/-- More steps change nothing but that they may suffice where fewer did not. -/
theorem mimicsAt : ∀ {n m}, n ≤ m → MimicsAt n m
  | 0, _, _ =>
    ⟨.spent, fun _ => .spent, fun _ _ => .spent, .spent, .spent, .spent, .spent⟩
  | n + 1, m + 1, h =>
    have ih : MimicsAt n m := mimicsAt (Nat.le_of_succ_le_succ h)
    ⟨ih.binary 1, ih.binary_succ, ih.climb_succ, ih.unary_succ, ih.primary_succ, ih.arguments_succ,
      ih.expressions_succ⟩

/-! ## Types and simple statements -/

/-- A type, with its brackets. -/
theorem typeExpr_mimics : ∀ {n m}, n ≤ m → Mimics Unknown (Reader.typeExpr n) (Reader.typeExpr m)
  | 0, _, _ => .spent
  | n + 1, m + 1, h => by
    have ih : Mimics Unknown (Reader.typeExpr n) (Reader.typeExpr m) :=
      typeExpr_mimics (Nat.le_of_succ_le_succ h)
    rw [Reader.typeExpr, Reader.typeExpr]
    refine .accept (by decide) ?_ (.check ?_ (.reject fun _ => rfl))
    · exact .bind ih fun _ => .expect (by decide) fun _ => .pure _
    · exact .advance (fun t ht => by rw [ht]; decide) fun _ => .pure _

/-- The indexes behind a name, up to the token that is no bracket. -/
theorem indexChain_mimics : ∀ {n m}, n ≤ m → ∀ line target,
    Mimics Unknown (Reader.indexChain n line target) (Reader.indexChain m line target)
  | 0, _, _, _, _ => .spent
  | n + 1, m + 1, h, line, target => by
    have h := Nat.le_of_succ_le_succ h
    rw [Reader.indexChain, Reader.indexChain]
    refine .accept (by decide) ?_ (.pure _)
    refine .bind (mimicsAt h).expression fun _ => .expect (by decide) fun _ => ?_
    exact indexChain_mimics h line _

/-- What follows the name at the start of a statement. -/
theorem afterTarget_mimics (h : n ≤ m) (name : Token) (target : Target) :
    Mimics Unknown (Reader.afterTarget n name target) (Reader.afterTarget m name target) := by
  have hexpression := (mimicsAt h).expression
  cases target
  -- Behind an index the sign of an assignment is asked for first.
  case' cell => refine .check ?_ (.reject_bind fun _ => rfl)
  all_goals refine .accept (by decide) ?_ (.accept (by decide) ?_ (.check ?_ (.reject fun _ => rfl)))
  case «variable».refine_1 | cell.refine_1 =>
    refine .bind (typeExpr_mimics h) fun _ => .expect (by decide) fun _ => ?_
    exact .bind hexpression fun _ => .pure _
  case «variable».refine_2 | cell.refine_2 => exact .bind hexpression fun _ => .pure _
  case «variable».refine_3 | cell.refine_3 =>
    exact .weaken (.bind (mimicsAt h).arguments fun _ => .pure _)

/-- A statement without a block of its own. -/
theorem simple_mimics (h : n ≤ m) : Mimics Unknown (Reader.simple n) (Reader.simple m) := by
  have hname : ∀ {P}, Mimics P
      (Reader.expect .identifier >>= fun name =>
        Reader.indexChain n name.line (.variable name.line name.lexeme) >>= fun target =>
          Reader.afterTarget n name target)
      (Reader.expect .identifier >>= fun name =>
        Reader.indexChain m name.line (.variable name.line name.lexeme) >>= fun target =>
          Reader.afterTarget m name target) := by
    refine .expect (by decide) fun name => ?_
    exact .bind (indexChain_mimics h _ _) fun target => afterTarget_mimics h name target
  refine .peek fun t _ => ?_
  cases hkind : t.kind
  all_goals dsimp only
  case returnWord =>
    refine .advance (fun _ h => by rw [h, hkind]; decide) fun word => ?_
    exact .bind (mimicsAt h).expression fun _ => .pure _
  case breakWord | continueWord =>
    exact .advance (fun _ h => by rw [h, hkind]; decide) fun _ => .pure _
  all_goals exact hname

/-! ## Statements -/

/-- A condition in parentheses. -/
theorem condition_mimics (h : n ≤ m) :
    Mimics Unknown (Reader.condition n) (Reader.condition m) := by
  refine .expect (by decide) fun _ => .bind (mimicsAt h).expression fun _ => ?_
  exact .expect (by decide) fun _ => .pure _

/-- A parameter, with a default if the sign of assignment is seen. -/
theorem param_mimics (h : n ≤ m) : Mimics Unknown (Reader.param n) (Reader.param m) := by
  refine .expect (by decide) fun name => .expect (by decide) fun _ => ?_
  refine .bind (typeExpr_mimics h) fun type => .accept (by decide) ?_ ?_
  · exact .bind (.map (mimicsAt h).expression) fun _ => .pure _
  · exact .bind (.pure _) fun _ => .pure _

/-- Parameters with commas between. -/
theorem params_mimics : ∀ {n m}, n ≤ m → Mimics Unknown (Reader.params n) (Reader.params m)
  | 0, _, _ => .spent
  | n + 1, m + 1, h => by
    have h := Nat.le_of_succ_le_succ h
    rw [Reader.params, Reader.params]
    refine .bind (param_mimics h) fun first => .accept (by decide) ?_ (.pure _)
    exact .bind (params_mimics h) fun _ => .pure _

/-- A server channel. -/
theorem serverChannel_mimics (h : n ≤ m) :
    Mimics Unknown (Reader.serverChannel n) (Reader.serverChannel m) := by
  have hprimary := (mimicsAt h).primary
  refine .expect (by decide) fun _ => .expect (by decide) fun _ => .expect (by decide) fun _ => ?_
  refine .expect (by decide) fun _ => .expect (by decide) fun _ => ?_
  refine .bind hprimary fun _ => .expect (by decide) fun _ => ?_
  refine .bind hprimary fun _ => .expect (by decide) fun _ => ?_
  exact .bind hprimary fun _ => .expect (by decide) fun _ => .pure _

/-- A client channel. -/
theorem clientChannel_mimics (h : n ≤ m) :
    Mimics Unknown (Reader.clientChannel n) (Reader.clientChannel m) := by
  have hprimary := (mimicsAt h).primary
  refine .expect (by decide) fun _ => .expect (by decide) fun _ => .expect (by decide) fun _ => ?_
  refine .bind hprimary fun _ => .expect (by decide) fun _ => ?_
  exact .bind hprimary fun _ => .expect (by decide) fun _ => .pure _

/-- The update of a loop. That it is no assignment is no complaint about a token found. -/
theorem update_mimics (h : n ≤ m) : Mimics Unknown (Reader.update n) (Reader.update m) := by
  refine .peek fun start _ => .weaken (.bind (simple_mimics h) fun s => ?_)
  cases s
  case assign a => exact .pure a
  all_goals exact .peek fun t _ => .throw rfl

/-- What is to be shown of the readers of statements at the budgets `n` and `m`. -/
structure StatementMimicsAt (n m : Nat) : Prop where
  statements : Mimics Unknown (Reader.statements n) (Reader.statements m)
  statement : Mimics Unknown (Reader.statement n) (Reader.statement m)
  block : Mimics Unknown (Reader.block n) (Reader.block m)

namespace StatementMimicsAt

/-- Statements up to a token that closes them. -/
theorem statements_succ (ih : StatementMimicsAt n m) :
    Mimics Unknown (Reader.statements (n + 1)) (Reader.statements (m + 1)) := by
  rw [Reader.statements, Reader.statements]
  refine .peek fun t _ => ?_
  split
  · exact .pure _
  · exact .weaken (.bind ih.statement fun _ => .bind ih.statements fun _ => .pure _)

/-- A block in braces. -/
theorem block_succ (ih : StatementMimicsAt n m) :
    Mimics Unknown (Reader.block (n + 1)) (Reader.block (m + 1)) := by
  rw [Reader.block, Reader.block]
  refine .expect (by decide) fun opening => .bind ih.statements fun _ => ?_
  exact .expect (by decide) fun _ => .pure _

/-- A statement by its first token. -/
theorem statement_succ (ih : StatementMimicsAt n m) (h : n ≤ m) :
    Mimics Unknown (Reader.statement (n + 1)) (Reader.statement (m + 1)) := by
  rw [Reader.statement, Reader.statement]
  refine .peek fun t _ => ?_
  cases hkind : t.kind
  all_goals dsimp only
  case func =>
    refine .advance (fun _ h => by rw [h, hkind]; decide) fun word => ?_
    refine .expect (by decide) fun name => .expect (by decide) fun _ => ?_
    have hbehind : ∀ ps, Mimics Unknown
        (Reader.expect .rightParen >>= fun _ => Reader.expect .arrow >>= fun _ =>
          Reader.typeExpr n >>= fun returns => Reader.block n >>= fun body =>
            Pure.pure (Stmt.function ⟨word.line, name.lexeme, ps, returns, body⟩))
        (Reader.expect .rightParen >>= fun _ => Reader.expect .arrow >>= fun _ =>
          Reader.typeExpr m >>= fun returns => Reader.block m >>= fun body =>
            Pure.pure (Stmt.function ⟨word.line, name.lexeme, ps, returns, body⟩)) := by
      refine fun ps => .expect (by decide) fun _ => .expect (by decide) fun _ => ?_
      exact .bind (typeExpr_mimics h) fun _ => .bind ih.block fun _ => .pure _
    exact .check (.weaken (.bind (.pure _) hbehind)) (.bind (params_mimics h) hbehind)
  case ifBranch =>
    refine .advance (fun _ h => by rw [h, hkind]; decide) fun word => ?_
    refine .bind (condition_mimics h) fun _ => .bind ih.block fun _ => .accept (by decide) ?_ (.pure _)
    exact .bind ih.block fun _ => .pure _
  case whileLoop =>
    refine .advance (fun _ h => by rw [h, hkind]; decide) fun word => ?_
    exact .bind (condition_mimics h) fun _ => .bind ih.block fun _ => .pure _
  case forLoop =>
    refine .advance (fun _ h => by rw [h, hkind]; decide) fun word => .expect (by decide) fun _ => ?_
    refine .bind (simple_mimics h) fun _ => .expect (by decide) fun _ => ?_
    refine .bind (mimicsAt h).expression fun _ => .expect (by decide) fun _ => ?_
    refine .bind (update_mimics h) fun _ => .expect (by decide) fun _ => ?_
    exact .bind ih.block fun _ => .pure _
  case seq | par =>
    refine .advance (fun _ h => by rw [h, hkind]; decide) fun word => ?_
    exact .bind ih.block fun _ => .pure _
  case serverChannel => exact .weaken (.bind (serverChannel_mimics h) fun _ => .pure _)
  case clientChannel => exact .weaken (.bind (clientChannel_mimics h) fun _ => .pure _)
  case leftBrace => exact .weaken (.bind ih.block fun _ => .pure _)
  all_goals exact (simple_mimics h).weaken

end StatementMimicsAt

/-- Readers of statements at two budgets, by induction on the smaller one. -/
theorem statementMimicsAt : ∀ {n m}, n ≤ m → StatementMimicsAt n m
  | 0, _, _ => ⟨.spent, .spent, .spent⟩
  | n + 1, m + 1, h =>
    have h : n ≤ m := Nat.le_of_succ_le_succ h
    have ih := statementMimicsAt h
    ⟨ih.statements_succ, ih.statement_succ h, ih.block_succ⟩

/-! ## Programs -/

/-- A program that is refused for a token found is refused at all larger budgets, and on all results that
agree up to this token. -/
theorem program_refuses {e : SyntaxError} {t : Token} (h : n ≤ m) (hs : Stream R s)
    (hprogram : Reader.program n s = .error (.grammar e)) (hfound : e.cause.found? = some t) :
    ∃ ts s', Took R ts s' ∧ Endless ts ∧ s'.lookahead = t ∧
      Answers (Reader.program m) ts s' fun _ => .error (.grammar e) := by
  have hmimics := (statementMimicsAt h).statements
  obtain he | ⟨ss, s', hss, he⟩ := bind_eq_error hprogram
  · obtain ⟨ts, s', htook, hts, hnext, hanswers⟩ := hmimics.refuses hs trivial he hfound
    refine ⟨ts, s', htook, hts, hnext, ?_⟩
    intro R₂ s₁ s₂ hs₁ hs₂ hnext'
    show (Except.bind (Reader.statements m s₁) fun r => _) = _
    rw [hanswers hs₁ hs₂ hnext']
    rfl
  · obtain ⟨ts, htook, hts, hanswers⟩ := hmimics.succeeds hs trivial hss
    obtain he | ⟨_, _, -, he⟩ := bind_eq_error he
    · -- Behind its statements a program is refused only for the token that is no end token.
      obtain he | ⟨b, _, hb, he⟩ := bind_eq_error he
      · cases he
      · obtain ⟨hkind, rfl⟩ := check_eq_ok.mp hb
        cases b with
        | true =>
          rw [if_pos rfl, Reader.advance] at he
          split at he <;> cases he
        | false =>
          cases he
          obtain rfl := Option.some.inj hfound
          refine ⟨ts, s', htook, hts, rfl, ?_⟩
          intro R₂ s₁ s₂ hs₁ hs₂ hnext
          rw [Reader.program, bind_apply_ok (hanswers hs₁ hs₂ hnext)]
          have hcheck : check .eof s₂ = .ok (false, s₂) := check_eq_ok.mpr ⟨hnext ▸ hkind, rfl⟩
          rw [Reader.expect, bind_assoc, bind_apply_ok hcheck, ← hnext]
          rfl
    · cases he

/-- A failed parse is a failure of the reader of programs: the stream itself was there. -/
theorem program_of_parseResults {e : ParseError} (hs : Stream R s) (h : parseResults R = .error e) :
    Reader.program (stepBudget R.length) s = .error e := by
  rw [parseResults, show ofResults R = .ok s from hs] at h
  dsimp only at h
  cases hprogram : Reader.program (stepBudget R.length) s with
  | ok r => rw [hprogram] at h; cases h
  | error e' =>
    rw [hprogram] at h
    rw [Except.error.inj h]

/-- Tokens that were read to the end are those of the program, and what is behind them is an end. -/
theorem exists_derives_of_tokens {p : Program} (h : parseResults (ts.map .ok) = .ok p) :
    ∃ us ends, ts = us ++ ends ∧ Derives us p ∧ nextKind ends = .eof := by
  obtain ⟨us, R', hR, hus, hend⟩ := derives_of_parseResults h
  obtain ⟨us', ends, rfl, hus', rfl⟩ := List.map_eq_append_iff.mp hR
  obtain rfl : us' = us := List.map_inj_right (fun _ _ => Except.ok.inj) |>.mp hus'
  refine ⟨us', ends, rfl, hus, ?_⟩
  rcases hend with hnil | ⟨t, R'', hcons, ht⟩
  · rw [List.map_eq_nil_iff.mp hnil]; rfl
  · obtain ⟨v, vs, rfl, hv, -⟩ := List.map_eq_cons_iff.mp hcons
    exact Except.ok.inj hv ▸ ht

/-- Among tokens that are all different there is one place where a token stands. -/
theorem eq_before_of_took {before after : List Token} {t : Token} (hbefore : t ∉ before)
    (hafter : t ∉ after) (htook : Took ((before ++ t :: after).map .ok) ts s) (hts : Endless ts)
    (hnext : s.lookahead = t) : ts = before := by
  obtain ⟨R', hR, hs⟩ := htook
  obtain ⟨ts', ws, hsplit, hts', rfl⟩ := List.map_eq_append_iff.mp hR
  obtain rfl : ts' = ts := List.map_inj_right (fun _ _ => Except.ok.inj) |>.mp hts'
  cases ws with
  | nil =>
    cases hs
    rw [List.append_nil] at hsplit
    have hmem : t ∈ ts' := hsplit ▸ by simp
    exact absurd (hnext ▸ rfl) (hts t hmem)
  | cons u ws =>
    obtain rfl : u = t := by cases hs; exact hnext
    exact ((List.append_cons_inj_of_notMem hbefore hafter).mp hsplit).1.symm

/-- **A token that was refused is refused behind the same tokens whatever follows.** -/
theorem parseResults_ne_ok_of_refused {before after behind : List Token} {e : SyntaxError} {t : Token}
    {p : Program} (hbefore : t ∉ before) (hafter : t ∉ after)
    (h : parseResults ((before ++ t :: after).map .ok) = .error (.grammar e))
    (hfound : e.cause.found? = some t) : parseResults ((before ++ t :: behind).map .ok) ≠ .ok p := by
  intro hok
  obtain ⟨us, ends, hus, hderives, hends⟩ := exists_derives_of_tokens hok
  have hs : Stream ((before ++ t :: after).map .ok) (ofTokens (before ++ t :: after)) :=
    ofResults_map_ok _
  obtain ⟨ts, s', htook, hts, hnext, hanswers⟩ := program_refuses (m := _ + (8 * us.length + 2))
    (Nat.le_add_right _ _) hs (program_of_parseResults hs h) hfound
  obtain rfl := eq_before_of_took hbefore hafter htook hts hnext
  have hbehind : Stream ((t :: behind).map .ok) (ofTokens (t :: behind)) := ofResults_map_ok _
  have hwhole : Stream (ts.map .ok ++ (t :: behind).map .ok) (ofTokens (ts ++ t :: behind)) := by
    rw [← List.map_append]
    exact ofResults_map_ok _
  obtain ⟨s, hprogram⟩ := hderives.program hends (Nat.le_add_left _ (stepBudget
    ((ts ++ t :: after).map Except.ok).length))
  rw [← hus, hanswers hwhole hbehind hnext.symm] at hprogram
  cases hprogram

end Grammar

end ParLang
