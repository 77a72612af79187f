import ParLang.Proofs.Grammar.Basic
import ParLang.Proofs.Grammar.Reader

/-!
# Readers accept only what the grammar derives

Whatever a reader gives, it took tokens that derive it. `Reads D x` says so of the reader `x` and the
judgement `D`. For the binary operators the climbing reader is compared with the levels: the operand it
has read so far is of some level, and the operator behind it, if there is one, binds no tighter than that
level. So an operator that it adds finds operands of the right levels on both sides.
-/

namespace ParLang

namespace Grammar

open Reader TokenStream

variable {α : Type} {n k least : Nat}

/-- The tokens `ts` lead from the results `R` to the stream `s'`. -/
def Took (R : List (Except LexError Token)) (ts : List Token) (s' : TokenStream) : Prop :=
  ∃ R', R = ts.map .ok ++ R' ∧ Stream R' s'

namespace Took

variable {R R' : List (Except LexError Token)} {s s' : TokenStream} {ts us : List Token} {t : Token}

/-- Nothing was taken, and the stream is where it was. -/
theorem nil (h : Stream R s) : Took R [] s := ⟨R, rfl, h⟩

/-- One token more was taken in front. -/
theorem cons (h : Took R ts s) : Took (.ok t :: R) (t :: ts) s := by
  obtain ⟨R', rfl, hs⟩ := h
  exact ⟨R', rfl, hs⟩

/-- What two readers took, one after the other, was taken in sequence. -/
theorem append (h : Took R us s) : Took (ts.map .ok ++ R) (ts ++ us) s := by
  obtain ⟨R', rfl, hs⟩ := h
  exact ⟨R', by simp, hs⟩

end Took

/-- Whenever the reader succeeds, it took tokens that stand for its result. -/
def Reads (D : List Token → α → Prop) (x : Reader α) : Prop :=
  ∀ {R s a s'}, Stream R s → x s = .ok (a, s') → ∃ ts, Took R ts s' ∧ D ts a

/-! ## Primaries -/

/-- A kind is an operator of a level if it is read as one of that precedence. -/
theorem operator_iff {kind : Token.Kind} {op : BinaryOp} :
    Operator k kind op ↔ binaryOp? kind = some op ∧ op.precedence = k := by
  constructor
  · intro h
    cases h <;> exact ⟨rfl, rfl⟩
  · rintro ⟨h, rfl⟩
    cases kind <;> cases h <;> constructor

/-- A number takes one token, or three with a point between. -/
theorem number_reads : Reads Primary Reader.number := by
  intro R s a s' hs h
  simp only [Reader.number, bind_eq_ok] at h
  obtain ⟨t, s₁, ht, text, s₂, htext, h⟩ := h
  obtain ⟨hkind, R₁, rfl, hs₁⟩ := eq_cons_of_expect hs ht (by decide)
  cases hx : Number.readDecimal? text with
  | none => rw [hx] at h; cases h
  | some x =>
    rw [hx] at h
    obtain ⟨rfl, rfl⟩ := pure_eq_ok.mp h
    simp only [numberText, bind_eq_ok] at htext
    obtain ⟨b, s₃, hb, htext⟩ := htext
    rcases eq_cons_of_accept hs₁ hb (by decide) with ⟨rfl, dot, R₂, hdot, rfl, hs₂⟩ | ⟨rfl, rfl, -⟩
    · simp only [if_true, bind_eq_ok, check_eq_ok] at htext
      obtain ⟨b, _, ⟨hb, rfl⟩, htext⟩ := htext
      split at htext
      · next hnext =>
        simp only [bind_eq_ok, pure_eq_ok] at htext
        obtain ⟨u, s₄, hu, rfl, rfl⟩ := htext
        have hnumber : s₃.lookahead.kind = .number := by simpa [hnext] using hb
        obtain ⟨rfl, R₃, rfl, hs₃⟩ := eq_cons_of_advance hs₂ hu (by rw [hnumber]; decide)
        exact ⟨[t, dot, s₃.lookahead], ⟨R₃, rfl, hs₃⟩, .fraction hkind hdot hnumber hx⟩
      · exact absurd htext not_reject_eq_ok
    · obtain ⟨rfl, rfl⟩ := pure_eq_ok.mp htext
      exact ⟨[t], ⟨R₁, rfl, hs₁⟩, .number hkind hx⟩

/-! ## Expressions -/

/-- The next token is no binary operator of the level `k` or a tighter one. -/
def Below (k : Nat) (s : TokenStream) : Prop :=
  ∀ op, binaryOp? s.lookahead.kind = some op → op.precedence < k

/-- No operator binds tighter than the last level. -/
theorem precedence_lt_seven (op : BinaryOp) : op.precedence < 7 := by
  cases op <;> decide

/-- An expression of a level is one of every looser level. -/
theorem Level.loosen {j : Nat} {ts : List Token} {e : Expr} (h : Level j ts e) (hk : k ≤ j) :
    Level k ts e := by
  obtain ⟨i, rfl⟩ := Nat.exists_eq_add_of_le hk
  induction i with
  | zero => exact h
  | succ i ih => exact ih (.tighter h) (Nat.le_add_right k i)

/-- The tokens of a call behind its name. -/
def Arguments (ts : List Token) (args : List Expr) : Prop :=
  ∃ opening us closing, ts = opening :: (us ++ [closing]) ∧ opening.kind = .leftParen ∧
    Listed us args ∧ closing.kind = .rightParen

/-- What is to be shown of the readers of expressions at the budget `n`. -/
structure ReadsAt (n : Nat) : Prop where
  expression : Reads Expression (Reader.expression n)
  binary : ∀ {least R s e s'}, least ≤ 7 → Stream R s → Reader.binary n least s = .ok (e, s') →
    ∃ ts, Took R ts s' ∧ Level least ts e ∧ Below least s'
  climb : ∀ {least j R s us left e s'}, least ≤ j → Level j us left → Below (j + 1) s →
    Stream R s → Reader.climb n least left s = .ok (e, s') →
    ∃ ts, Took R ts s' ∧ Level least (us ++ ts) e ∧ Below least s'
  unary : Reads Unary (Reader.unary n)
  primary : Reads Primary (Reader.primary n)
  arguments : Reads Arguments (Reader.arguments n)
  expressions : Reads Items (Reader.expressions n)

namespace ReadsAt

variable {R : List (Except LexError Token)} {s s' : TokenStream} {e : Expr}

/-- An expression is read at the loosest level. -/
theorem expression_succ (ih : ReadsAt n) : Reads Expression (Reader.expression (n + 1)) := by
  intro R s e s' hs h
  obtain ⟨ts, htook, hlevel, -⟩ := ih.binary (by decide) hs h
  exact ⟨ts, htook, hlevel⟩

/-- A level takes an operand and then goes on while operators of it follow. -/
theorem binary_succ (ih : ReadsAt n) (hleast : least ≤ 7) (hs : Stream R s)
    (h : Reader.binary (n + 1) least s = .ok (e, s')) :
    ∃ ts, Took R ts s' ∧ Level least ts e ∧ Below least s' := by
  simp only [Reader.binary, bind_eq_ok] at h
  obtain ⟨left, s₁, hleft, h⟩ := h
  obtain ⟨us, ⟨R₁, rfl, hs₁⟩, hunary⟩ := ih.unary hs hleft
  have hbelow : Below (7 + 1) s₁ := fun op _ => Nat.lt_succ_of_lt (precedence_lt_seven op)
  obtain ⟨ts, htook, hlevel⟩ := ih.climb hleast (.unary hunary) hbelow hs₁ h
  exact ⟨us ++ ts, htook.append, hlevel⟩

/-- The step of the climb. The right operand takes all operators that bind tighter than the one in
front of it, so the next one binds no tighter than that one does. -/
theorem climb_succ {j : Nat} {us : List Token} {left : Expr} (ih : ReadsAt n) (hleast : least ≤ j)
    (hleft : Level j us left) (hbelow : Below (j + 1) s) (hs : Stream R s)
    (h : Reader.climb (n + 1) least left s = .ok (e, s')) :
    ∃ ts, Took R ts s' ∧ Level least (us ++ ts) e ∧ Below least s' := by
  simp only [Reader.climb, bind_eq_ok, peek_eq_ok] at h
  obtain ⟨_, _, ⟨rfl, rfl⟩, h⟩ := h
  have hstop : Below least s → left = e ∧ s = s' →
      ∃ ts, Took R ts s' ∧ Level least (us ++ ts) e ∧ Below least s' := by
    rintro hb ⟨rfl, rfl⟩
    exact ⟨[], .nil hs, by simpa using hleft.loosen hleast, hb⟩
  cases hop : binaryOp? s.lookahead.kind with
  | none =>
    rw [hop] at h
    exact hstop (fun op hop' => by rw [hop] at hop'; cases hop') (pure_eq_ok.mp h)
  | some op =>
    rw [hop] at h
    dsimp only at h
    split at h
    · next hle =>
      simp only [bind_eq_ok] at h
      obtain ⟨sign, s₁, hsign, right, s₂, hright, h⟩ := h
      have heof : s.lookahead.kind ≠ .eof := fun heof => by rw [heof] at hop; cases hop
      obtain ⟨rfl, R₁, rfl, hs₁⟩ := eq_cons_of_advance hs hsign heof
      have hseven := precedence_lt_seven op
      obtain ⟨vs, ⟨R₂, rfl, hs₂⟩, hvs, hnext⟩ := ih.binary (by omega) hs₁ hright
      have hpj : op.precedence ≤ j := Nat.lt_succ_iff.mp (hbelow op hop)
      have hbinary : Level op.precedence (us ++ s.lookahead :: vs)
          (.binary s.lookahead.line op left right) :=
        .binary (hleft.loosen hpj) (operator_iff.mpr ⟨hop, rfl⟩) hvs
      obtain ⟨ts, htook, hlevel, hbelow'⟩ := ih.climb hle hbinary hnext hs₂ h
      refine ⟨s.lookahead :: (vs ++ ts), htook.append.cons, ?_, hbelow'⟩
      simpa using hlevel
    · next hle =>
      refine hstop (fun op' hop' => ?_) (pure_eq_ok.mp h)
      obtain rfl := Option.some.inj (hop.symm.trans hop')
      omega

/-- An operator in front takes an operand with its own operators. -/
theorem unary_succ (ih : ReadsAt n) : Reads Unary (Reader.unary (n + 1)) := by
  intro R s e s' hs h
  simp only [Reader.unary, bind_eq_ok, peek_eq_ok] at h
  obtain ⟨_, _, ⟨rfl, rfl⟩, h⟩ := h
  cases hop : unaryOp? s.lookahead.kind with
  | none =>
    rw [hop] at h
    obtain ⟨ts, htook, hprimary⟩ := ih.primary hs h
    exact ⟨ts, htook, .primary hprimary⟩
  | some op =>
    rw [hop] at h
    simp only [bind_eq_ok, pure_eq_ok] at h
    obtain ⟨sign, s₁, hsign, operand, s₂, hoperand, rfl, rfl⟩ := h
    have heof : s.lookahead.kind ≠ .eof := fun heof => by rw [heof] at hop; cases hop
    obtain ⟨rfl, R₁, rfl, hs₁⟩ := eq_cons_of_advance hs hsign heof
    obtain ⟨ts, htook, hunary⟩ := ih.unary hs₁ hoperand
    refine ⟨s.lookahead :: ts, htook.cons, ?_⟩
    cases hkind : s.lookahead.kind <;> rw [hkind] at hop <;> cases hop
    · exact .neg hkind hunary
    · exact .not hkind hunary

/-- Expressions are taken one after the other while commas follow. -/
theorem expressions_succ (ih : ReadsAt n) : Reads Items (Reader.expressions (n + 1)) := by
  intro R s es s' hs h
  simp only [Reader.expressions, bind_eq_ok] at h
  obtain ⟨first, s₁, hfirst, b, s₂, hb, h⟩ := h
  obtain ⟨us, ⟨R₁, rfl, hs₁⟩, hlevel⟩ := ih.expression hs hfirst
  rcases eq_cons_of_accept hs₁ hb (by decide) with
    ⟨rfl, comma, R₂, hcomma, rfl, hs₂⟩ | ⟨rfl, rfl, -⟩
  · simp only [if_true, bind_eq_ok, pure_eq_ok] at h
    obtain ⟨rest, s₃, hrest, rfl, rfl⟩ := h
    obtain ⟨vs, htook, hrest⟩ := ih.expressions hs₂ hrest
    exact ⟨us ++ comma :: vs, htook.cons.append, .cons hlevel hcomma hrest⟩
  · obtain ⟨rfl, rfl⟩ := pure_eq_ok.mp h
    exact ⟨us, ⟨R₁, rfl, hs₁⟩, .one hlevel⟩

/-- Arguments are taken with their parentheses. -/
theorem arguments_succ (ih : ReadsAt n) : Reads Arguments (Reader.arguments (n + 1)) := by
  intro R s args s' hs h
  simp only [Reader.arguments, bind_eq_ok] at h
  obtain ⟨opening, s₁, hopening, b, s₂, hb, h⟩ := h
  obtain ⟨ho, R₁, rfl, hs₁⟩ := eq_cons_of_expect hs hopening (by decide)
  rcases eq_cons_of_accept hs₁ hb (by decide) with
    ⟨rfl, closing, R₂, hc, rfl, hs₂⟩ | ⟨rfl, rfl, -⟩
  · obtain ⟨rfl, rfl⟩ := pure_eq_ok.mp h
    exact ⟨[opening, closing], ⟨R₂, rfl, hs₂⟩, opening, [], closing, rfl, ho, .none, hc⟩
  · simp only [Bool.false_eq_true, if_false, bind_eq_ok, pure_eq_ok] at h
    obtain ⟨es, s₃, hes, closing, s₄, hclosing, rfl, rfl⟩ := h
    obtain ⟨us, ⟨R₂, rfl, hs₂⟩, hes⟩ := ih.expressions hs₁ hes
    obtain ⟨hc, R₃, rfl, hs₃⟩ := eq_cons_of_expect hs₂ hclosing (by decide)
    exact ⟨opening :: (us ++ [closing]), ((Took.nil hs₃).cons).append.cons,
      opening, us, closing, rfl, ho, .some hes, hc⟩

/-! ### Primaries, one lemma for each form -/

section

variable {R : List (Except LexError Token)} {s s' : TokenStream} {e : Expr}

/-- A name, with a call or an index behind it or alone. -/
theorem primary_name (ih : ReadsAt n) (hs : Stream R s) (hkind : s.lookahead.kind = .identifier)
    (h : Reader.primary (n + 1) s = .ok (e, s')) : ∃ ts, Took R ts s' ∧ Primary ts e := by
  rw [Reader.primary, bind_apply_ok (peek_eq_ok.mpr ⟨rfl, rfl⟩), hkind] at h
  simp only [bind_eq_ok, check_eq_ok] at h
  obtain ⟨t, s₁, hadvance, b, _, ⟨hb, rfl⟩, h⟩ := h
  obtain ⟨ht, R₁, rfl, hs₁⟩ := eq_cons_of_advance_kind hs hkind (by decide) hadvance
  cases b with
  | true =>
    simp only [if_true, bind_eq_ok, pure_eq_ok] at h
    obtain ⟨args, s₂, hargs, rfl, rfl⟩ := h
    obtain ⟨ts, htook, opening, us, closing, rfl, ho, hargs, hc⟩ := ih.arguments hs₁ hargs
    exact ⟨_, htook.cons, .call ht ho hargs hc⟩
  | false =>
    simp only [Bool.false_eq_true, if_false, bind_eq_ok] at h
    obtain ⟨b, s₂, hb, h⟩ := h
    rcases eq_cons_of_accept hs₁ hb (by decide) with
      ⟨rfl, opening, R₂, ho, rfl, hs₂⟩ | ⟨rfl, rfl, -⟩
    · simp only [if_true, bind_eq_ok, pure_eq_ok] at h
      obtain ⟨position, s₃, hposition, closing, s₄, hclosing, rfl, rfl⟩ := h
      obtain ⟨us, ⟨R₃, rfl, hs₃⟩, hposition⟩ := ih.expression hs₂ hposition
      obtain ⟨hc, R₄, rfl, hs₄⟩ := eq_cons_of_expect hs₃ hclosing (by decide)
      exact ⟨_, ((Took.nil hs₄).cons.append).cons.cons, .index ht ho hposition hc⟩
    · obtain ⟨rfl, rfl⟩ := pure_eq_ok.mp h
      exact ⟨[t], ⟨R₁, rfl, hs₁⟩, .name ht⟩

/-- An array, with elements or without. -/
theorem primary_array (ih : ReadsAt n) (hs : Stream R s) (hkind : s.lookahead.kind = .leftBracket)
    (h : Reader.primary (n + 1) s = .ok (e, s')) : ∃ ts, Took R ts s' ∧ Primary ts e := by
  rw [Reader.primary, bind_apply_ok (peek_eq_ok.mpr ⟨rfl, rfl⟩), hkind] at h
  simp only [bind_eq_ok, check_eq_ok] at h
  obtain ⟨opening, s₁, hadvance, b, _, ⟨hb, rfl⟩, h⟩ := h
  obtain ⟨ho, R₁, rfl, hs₁⟩ := eq_cons_of_advance_kind hs hkind (by decide) hadvance
  cases b with
  | true =>
    simp only [if_true, bind_eq_ok, pure_eq_ok] at h
    obtain ⟨_, _, ⟨rfl, rfl⟩, closing, s₂, hclosing, rfl, rfl⟩ := h
    obtain ⟨hc, R₂, rfl, hs₂⟩ := eq_cons_of_expect hs₁ hclosing (by decide)
    exact ⟨[opening, closing], ⟨R₂, rfl, hs₂⟩, .array ho .none hc⟩
  | false =>
    simp only [Bool.false_eq_true, if_false, bind_eq_ok, pure_eq_ok] at h
    obtain ⟨items, s₂, hitems, closing, s₃, hclosing, rfl, rfl⟩ := h
    obtain ⟨us, ⟨R₂, rfl, hs₂⟩, hitems⟩ := ih.expressions hs₁ hitems
    obtain ⟨hc, R₃, rfl, hs₃⟩ := eq_cons_of_expect hs₂ hclosing (by decide)
    exact ⟨_, ((Took.nil hs₃).cons.append).cons, .array ho (.some hitems) hc⟩

/-- An expression in parentheses. -/
theorem primary_parens (ih : ReadsAt n) (hs : Stream R s) (hkind : s.lookahead.kind = .leftParen)
    (h : Reader.primary (n + 1) s = .ok (e, s')) : ∃ ts, Took R ts s' ∧ Primary ts e := by
  rw [Reader.primary, bind_apply_ok (peek_eq_ok.mpr ⟨rfl, rfl⟩), hkind] at h
  simp only [bind_eq_ok, pure_eq_ok] at h
  obtain ⟨opening, s₁, hadvance, inner, s₂, hinner, closing, s₃, hclosing, rfl, rfl⟩ := h
  obtain ⟨ho, R₁, rfl, hs₁⟩ := eq_cons_of_advance_kind hs hkind (by decide) hadvance
  obtain ⟨us, ⟨R₂, rfl, hs₂⟩, hinner⟩ := ih.expression hs₁ hinner
  obtain ⟨hc, R₃, rfl, hs₃⟩ := eq_cons_of_expect hs₂ hclosing (by decide)
  exact ⟨_, ((Took.nil hs₃).cons.append).cons, .parens ho hinner hc⟩

/-- A literal that is one token. -/
theorem primary_literal {literal : Token → Expr} {kind : Token.Kind} (hs : Stream R s)
    (hkind : s.lookahead.kind = kind) (heof : kind ≠ .eof)
    (hliteral : ∀ t : Token, t.kind = kind → Primary [t] (literal t))
    (h : (do
      let t ← advance
      return literal t) s = .ok (e, s')) : ∃ ts, Took R ts s' ∧ Primary ts e := by
  simp only [bind_eq_ok, pure_eq_ok] at h
  obtain ⟨t, s₁, hadvance, rfl, rfl⟩ := h
  obtain ⟨ht, R₁, rfl, hs₁⟩ := eq_cons_of_advance_kind hs hkind heof hadvance
  exact ⟨[t], ⟨R₁, rfl, hs₁⟩, hliteral t ht⟩

end

/-- An operand, by the form that its first token tells. -/
theorem primary_succ (ih : ReadsAt n) : Reads Primary (Reader.primary (n + 1)) := by
  intro R s e s' hs h
  have hread := h
  rw [Reader.primary, bind_apply_ok (peek_eq_ok.mpr ⟨rfl, rfl⟩)] at hread
  cases hkind : s.lookahead.kind with
  | identifier => exact ih.primary_name hs hkind h
  | leftBracket => exact ih.primary_array hs hkind h
  | leftParen => exact ih.primary_parens hs hkind h
  | number =>
    rw [hkind] at hread
    exact number_reads hs hread
  | string =>
    rw [hkind] at hread
    exact primary_literal hs hkind (by decide) (fun _ => .text) hread
  | trueWord =>
    rw [hkind] at hread
    exact primary_literal hs hkind (by decide) (fun _ => .true) hread
  | falseWord =>
    rw [hkind] at hread
    exact primary_literal hs hkind (by decide) (fun _ => .false) hread
  | _ =>
    rw [hkind] at hread
    exact absurd hread not_reject_eq_ok

end ReadsAt

/-- **The readers of expressions accept only what the grammar derives**, at every budget. -/
theorem readsAt (n : Nat) : ReadsAt n := by
  induction n with
  | zero =>
    exact ⟨fun _ h => absurd h not_spent_eq_ok, fun _ _ h => absurd h not_spent_eq_ok,
      fun _ _ _ _ h => absurd h not_spent_eq_ok, fun _ h => absurd h not_spent_eq_ok,
      fun _ h => absurd h not_spent_eq_ok, fun _ h => absurd h not_spent_eq_ok,
      fun _ h => absurd h not_spent_eq_ok⟩
  | succ n ih =>
    exact ⟨ih.expression_succ, ih.binary_succ, ih.climb_succ, ih.unary_succ, ih.primary_succ,
      ih.arguments_succ, ih.expressions_succ⟩

/-! ## Types and simple statements -/

/-- A type takes a word and then pairs of brackets. -/
theorem typeExpr_reads : Reads Annotation (Reader.typeExpr n) := by
  induction n with
  | zero => exact fun _ h => absurd h not_spent_eq_ok
  | succ n ih =>
    intro R s type s' hs h
    simp only [Reader.typeExpr, bind_eq_ok] at h
    obtain ⟨b, s₁, hb, h⟩ := h
    rcases eq_cons_of_accept hs hb (by decide) with
      ⟨rfl, opening, R₁, ho, rfl, hs₁⟩ | ⟨rfl, rfl, -⟩
    · simp only [if_true, bind_eq_ok, pure_eq_ok] at h
      obtain ⟨inner, s₂, hinner, closing, s₃, hclosing, rfl, rfl⟩ := h
      obtain ⟨us, ⟨R₂, rfl, hs₂⟩, hinner⟩ := ih hs₁ hinner
      obtain ⟨hc, R₃, rfl, hs₃⟩ := eq_cons_of_expect hs₂ hclosing (by decide)
      exact ⟨_, ((Took.nil hs₃).cons.append).cons, .array ho hinner hc⟩
    · simp only [Bool.false_eq_true, if_false, bind_eq_ok, check_eq_ok] at h
      obtain ⟨b, _, ⟨hb, rfl⟩, h⟩ := h
      split at h
      · next hnext =>
        simp only [bind_eq_ok, pure_eq_ok] at h
        obtain ⟨t, s₂, ht, rfl, rfl⟩ := h
        have hkind : s₁.lookahead.kind = .typeName := by simpa [hnext] using hb
        obtain ⟨rfl, R₁, rfl, hs₁⟩ := eq_cons_of_advance hs ht (by rw [hkind]; decide)
        exact ⟨[s₁.lookahead], ⟨R₁, rfl, hs₁⟩, .named hkind⟩
      · exact absurd h not_reject_eq_ok

/-- Indexes are taken one after the other, each with its brackets. -/
theorem indexChain_reads {line : Nat} {target : Target} :
    Reads (Indexes line target) (Reader.indexChain n line target) := by
  induction n generalizing target with
  | zero => exact fun _ h => absurd h not_spent_eq_ok
  | succ n ih =>
    intro R s target' s' hs h
    simp only [Reader.indexChain, bind_eq_ok] at h
    obtain ⟨b, s₁, hb, h⟩ := h
    rcases eq_cons_of_accept hs hb (by decide) with
      ⟨rfl, opening, R₁, ho, rfl, hs₁⟩ | ⟨rfl, rfl, -⟩
    · simp only [if_true, bind_eq_ok] at h
      obtain ⟨position, s₂, hposition, closing, s₃, hclosing, h⟩ := h
      obtain ⟨us, ⟨R₂, rfl, hs₂⟩, hposition⟩ := (readsAt n).expression hs₁ hposition
      obtain ⟨hc, R₃, rfl, hs₃⟩ := eq_cons_of_expect hs₂ hclosing (by decide)
      obtain ⟨vs, htook, hrest⟩ := ih hs₃ h
      exact ⟨_, htook.cons.append.cons, .cons ho hposition hc hrest⟩
    · obtain ⟨rfl, rfl⟩ := pure_eq_ok.mp h
      exact ⟨[], .nil hs, .none⟩

/-- Indexes that lead to a variable are none. -/
theorem Indexes.eq_of_variable {line l : Nat} {name : String} {target : Target} {ts : List Token}
    (h : Indexes line target ts (.variable l name)) : ts = [] ∧ target = .variable l name := by
  cases h with
  | none => exact ⟨rfl, rfl⟩
  | cons ho he hc hrest =>
    have hcell : ∀ {target us target'}, Indexes line target us target' →
        (∃ b p, target = .cell b p) → ∃ b p, target' = .cell b p := by
      intro target us target' h
      induction h with
      | none => exact id
      | cons _ _ _ _ ih => exact fun _ => ih ⟨_, _, rfl⟩
    obtain ⟨b, p, h⟩ := hcell hrest ⟨_, _, rfl⟩
    cases h

section

variable {t : Token} {us : List Token} {stmt : Stmt} {R : List (Except LexError Token)}
  {s s' : TokenStream}

/-- The value behind the sign of an assignment. -/
theorem assign_reads {target : Target} {sign : Token} {s₁ : TokenStream} {e : Expr}
    (ht : t.kind = .identifier) (htarget : Indexes t.line (.variable t.line t.lexeme) us target)
    (hsign : sign.kind = .assign) (hs : Stream R s₁) (h : Reader.expression n s₁ = .ok (e, s')) :
    ∃ ts, Took (.ok sign :: R) ts s' ∧ Simple (t :: (us ++ ts)) (.assign ⟨t.line, target, e⟩) := by
  obtain ⟨ts, htook, he⟩ := (readsAt n).expression hs h
  exact ⟨sign :: ts, htook.cons, .assign (.intro ht htarget hsign he)⟩

/-- Behind a name alone stands a declaration, an assignment or a call. -/
theorem afterName_reads (ht : t.kind = .identifier) (hs : Stream R s)
    (h : Reader.afterTarget n t (.variable t.line t.lexeme) s = .ok (stmt, s')) :
    ∃ ts, Took R ts s' ∧ Simple (t :: ts) stmt := by
  simp only [Reader.afterTarget, bind_eq_ok] at h
  obtain ⟨b, s₁, hb, h⟩ := h
  rcases eq_cons_of_accept hs hb (by decide) with
    ⟨rfl, colon, R₁, hcolon, rfl, hs₁⟩ | ⟨rfl, rfl, -⟩
  · simp only [if_true, bind_eq_ok, pure_eq_ok] at h
    obtain ⟨type, s₂, htype, sign, s₃, hsign, e, s₄, he, rfl, rfl⟩ := h
    obtain ⟨vs, ⟨R₂, rfl, hs₂⟩, htype⟩ := typeExpr_reads hs₁ htype
    obtain ⟨hsign, R₃, rfl, hs₃⟩ := eq_cons_of_expect hs₂ hsign (by decide)
    obtain ⟨ts, htook, he⟩ := (readsAt n).expression hs₃ he
    exact ⟨colon :: (vs ++ sign :: ts), htook.cons.append.cons,
      .declare ht hcolon htype hsign he⟩
  · simp only [Bool.false_eq_true, if_false, bind_eq_ok] at h
    obtain ⟨b, s₂, hb, h⟩ := h
    rcases eq_cons_of_accept hs hb (by decide) with
      ⟨rfl, sign, R₁, hsign, rfl, hs₁⟩ | ⟨rfl, rfl, -⟩
    · simp only [if_true, bind_eq_ok, pure_eq_ok] at h
      obtain ⟨e, s₃, he, rfl, rfl⟩ := h
      exact assign_reads ht .none hsign hs₁ he
    · simp only [Bool.false_eq_true, if_false, bind_eq_ok, check_eq_ok] at h
      obtain ⟨b, _, ⟨-, rfl⟩, h⟩ := h
      split at h
      · simp only [bind_eq_ok, pure_eq_ok] at h
        obtain ⟨args, s₃, hargs, rfl, rfl⟩ := h
        obtain ⟨ts, htook, opening, vs, closing, rfl, ho, hargs, hc⟩ :=
          (readsAt n).arguments hs hargs
        exact ⟨_, htook, .call ht ho hargs hc⟩
      · exact absurd h not_reject_eq_ok

/-- Behind an index only an assignment can stand: the next token is its sign. -/
theorem afterIndex_reads {base position : Expr} (ht : t.kind = .identifier)
    (htarget : Indexes t.line (.variable t.line t.lexeme) us (.cell base position)) (hs : Stream R s)
    (h : Reader.afterTarget n t (.cell base position) s = .ok (stmt, s')) :
    ∃ ts, Took R ts s' ∧ Simple (t :: (us ++ ts)) stmt := by
  simp only [Reader.afterTarget, bind_eq_ok, check_eq_ok] at h
  obtain ⟨b, _, ⟨hb, rfl⟩, h⟩ := h
  cases b with
  | false =>
    simp only [Bool.false_eq_true, if_false, bind_eq_ok] at h
    obtain ⟨_, _, hreject, -⟩ := h
    exact absurd hreject not_reject_eq_ok
  | true =>
    have hnext : s.lookahead.kind = .assign := by simpa using hb
    simp only [if_true, bind_eq_ok] at h
    obtain ⟨b, s₁, hb, h⟩ := h
    rw [accept_eq_false (by rw [hnext]; decide)] at hb
    cases hb
    simp only [Bool.false_eq_true, if_false, bind_eq_ok] at h
    obtain ⟨b, s₂, hb, h⟩ := h
    rcases eq_cons_of_accept hs hb (by decide) with
      ⟨rfl, sign, R₁, hsign, rfl, hs₁⟩ | ⟨-, -, hne⟩
    · simp only [if_true, bind_eq_ok, pure_eq_ok] at h
      obtain ⟨e, s₃, he, rfl, rfl⟩ := h
      exact assign_reads ht htarget hsign hs₁ he
    · exact absurd hnext hne

/-- What follows a target, behind a name and the indexes of the target. -/
theorem afterTarget_reads {target : Target} (ht : t.kind = .identifier)
    (htarget : Indexes t.line (.variable t.line t.lexeme) us target) (hs : Stream R s)
    (h : Reader.afterTarget n t target s = .ok (stmt, s')) :
    ∃ ts, Took R ts s' ∧ Simple (t :: (us ++ ts)) stmt := by
  cases target with
  | «variable» l name =>
    obtain ⟨rfl, heq⟩ := htarget.eq_of_variable
    cases heq
    exact afterName_reads ht hs h
  | cell base position => exact afterIndex_reads ht htarget hs h

end

/-- A statement without a block, by the form that its first token tells. -/
theorem simple_reads : Reads Simple (Reader.simple n) := by
  intro R s stmt s' hs h
  simp only [Reader.simple, bind_eq_ok, peek_eq_ok] at h
  obtain ⟨_, _, ⟨rfl, rfl⟩, h⟩ := h
  generalize hkind : s.lookahead.kind = kind at h
  have hname : (do
      let name ← expect .identifier
      let target ← indexChain n name.line (.variable name.line name.lexeme)
      afterTarget n name target) s = .ok (stmt, s') → ∃ ts, Took R ts s' ∧ Simple ts stmt := by
    intro h
    simp only [bind_eq_ok] at h
    obtain ⟨t, s₁, ht, target, s₂, htarget, h⟩ := h
    obtain ⟨hkind, R₁, rfl, hs₁⟩ := eq_cons_of_expect hs ht (by decide)
    obtain ⟨us, ⟨R₂, rfl, hs₂⟩, htarget⟩ := indexChain_reads hs₁ htarget
    obtain ⟨ts, htook, hsimple⟩ := afterTarget_reads hkind htarget hs₂ h
    exact ⟨_, htook.append.cons, hsimple⟩
  cases kind with
  | returnWord =>
    simp only [bind_eq_ok, pure_eq_ok] at h
    obtain ⟨word, s₁, hword, e, s₂, he, rfl, rfl⟩ := h
    obtain ⟨rfl, R₁, rfl, hs₁⟩ := eq_cons_of_advance hs hword (by rw [hkind]; decide)
    obtain ⟨ts, htook, he⟩ := (readsAt n).expression hs₁ he
    exact ⟨_, htook.cons, .return hkind he⟩
  | breakWord =>
    simp only [bind_eq_ok, pure_eq_ok] at h
    obtain ⟨word, s₁, hword, rfl, rfl⟩ := h
    obtain ⟨rfl, R₁, rfl, hs₁⟩ := eq_cons_of_advance hs hword (by rw [hkind]; decide)
    exact ⟨[s.lookahead], ⟨R₁, rfl, hs₁⟩, .break hkind⟩
  | continueWord =>
    simp only [bind_eq_ok, pure_eq_ok] at h
    obtain ⟨word, s₁, hword, rfl, rfl⟩ := h
    obtain ⟨rfl, R₁, rfl, hs₁⟩ := eq_cons_of_advance hs hword (by rw [hkind]; decide)
    exact ⟨[s.lookahead], ⟨R₁, rfl, hs₁⟩, .continue hkind⟩
  | _ => exact hname h

/-! ## Statements -/

/-- A condition takes its parentheses too. -/
theorem condition_reads : Reads (fun ts e => ∃ opening us closing, ts = opening :: (us ++ [closing]) ∧
    opening.kind = .leftParen ∧ Expression us e ∧ closing.kind = .rightParen)
    (Reader.condition n) := by
  intro R s e s' hs h
  simp only [Reader.condition, bind_eq_ok, pure_eq_ok] at h
  obtain ⟨opening, s₁, hopening, inner, s₂, hinner, closing, s₃, hclosing, rfl, rfl⟩ := h
  obtain ⟨ho, R₁, rfl, hs₁⟩ := eq_cons_of_expect hs hopening (by decide)
  obtain ⟨us, ⟨R₂, rfl, hs₂⟩, hinner⟩ := (readsAt n).expression hs₁ hinner
  obtain ⟨hc, R₃, rfl, hs₃⟩ := eq_cons_of_expect hs₂ hclosing (by decide)
  exact ⟨_, ((Took.nil hs₃).cons.append).cons, opening, us, closing, rfl, ho, hinner, hc⟩

/-- A parameter takes its name, its type and perhaps its default. -/
theorem param_reads : Reads Parameter (Reader.param n) := by
  intro R s p s' hs h
  simp only [Reader.param, bind_eq_ok] at h
  obtain ⟨t, s₁, ht, colon, s₂, hcolon, type, s₃, htype, b, s₄, hb, h⟩ := h
  obtain ⟨ht, R₁, rfl, hs₁⟩ := eq_cons_of_expect hs ht (by decide)
  obtain ⟨hcolon, R₂, rfl, hs₂⟩ := eq_cons_of_expect hs₁ hcolon (by decide)
  obtain ⟨us, ⟨R₃, rfl, hs₃⟩, hannotation⟩ := typeExpr_reads hs₂ htype
  rcases eq_cons_of_accept hs₃ hb (by decide) with
    ⟨rfl, sign, R₄, hsign, rfl, hs₄⟩ | ⟨rfl, rfl, -⟩
  · simp only [if_true, bind_eq_ok, map_eq_ok, pure_eq_ok] at h
    obtain ⟨_, s₅, ⟨e, he, rfl⟩, rfl, rfl⟩ := h
    obtain ⟨ts, htook, he⟩ := (readsAt n).expression hs₄ he
    exact ⟨_, htook.cons.append.cons.cons, .default ht hcolon hannotation hsign he⟩
  · simp only [Bool.false_eq_true, if_false, bind_eq_ok, pure_eq_ok] at h
    obtain ⟨_, _, ⟨rfl, rfl⟩, rfl, rfl⟩ := h
    exact ⟨t :: colon :: us, ⟨R₃, rfl, hs₃⟩, .plain ht hcolon hannotation⟩

/-- Parameters are taken one after the other while commas follow. -/
theorem params_reads : Reads Parameters (Reader.params n) := by
  induction n with
  | zero => exact fun _ h => absurd h not_spent_eq_ok
  | succ n ih =>
    intro R s ps s' hs h
    simp only [Reader.params, bind_eq_ok] at h
    obtain ⟨first, s₁, hfirst, b, s₂, hb, h⟩ := h
    obtain ⟨us, ⟨R₁, rfl, hs₁⟩, hparam⟩ := param_reads hs hfirst
    rcases eq_cons_of_accept hs₁ hb (by decide) with
      ⟨rfl, comma, R₂, hcomma, rfl, hs₂⟩ | ⟨rfl, rfl, -⟩
    · simp only [if_true, bind_eq_ok, pure_eq_ok] at h
      obtain ⟨rest, s₃, hrest, rfl, rfl⟩ := h
      obtain ⟨vs, htook, hrest⟩ := ih hs₂ hrest
      exact ⟨us ++ comma :: vs, htook.cons.append, .cons hparam hcomma hrest⟩
    · obtain ⟨rfl, rfl⟩ := pure_eq_ok.mp h
      exact ⟨us, ⟨R₁, rfl, hs₁⟩, .one hparam⟩

/-- A server channel takes its word, its name, the host and the port. -/
theorem serverChannel_reads : Reads Server (Reader.serverChannel n) := by
  intro R s c s' hs h
  simp only [Reader.serverChannel, bind_eq_ok, pure_eq_ok] at h
  obtain ⟨word, s₁, hword, name, s₂, hname, opening, s₃, ho, handler, s₄, hhandler, comma₁, s₅, h₁,
    description, s₆, hdescription, comma₂, s₇, h₂, host, s₈, hhost, comma₃, s₉, h₃,
    port, s₁₀, hport, closing, s₁₁, hc, rfl, rfl⟩ := h
  obtain ⟨hword, R₁, rfl, hs₁⟩ := eq_cons_of_expect hs hword (by decide)
  obtain ⟨hname, R₂, rfl, hs₂⟩ := eq_cons_of_expect hs₁ hname (by decide)
  obtain ⟨ho, R₃, rfl, hs₃⟩ := eq_cons_of_expect hs₂ ho (by decide)
  obtain ⟨hhandler, R₄, rfl, hs₄⟩ := eq_cons_of_expect hs₃ hhandler (by decide)
  obtain ⟨h₁, R₅, rfl, hs₅⟩ := eq_cons_of_expect hs₄ h₁ (by decide)
  obtain ⟨us, ⟨R₆, rfl, hs₆⟩, hdescription⟩ := (readsAt n).primary hs₅ hdescription
  obtain ⟨h₂, R₇, rfl, hs₇⟩ := eq_cons_of_expect hs₆ h₂ (by decide)
  obtain ⟨vs, ⟨R₈, rfl, hs₈⟩, hhost⟩ := (readsAt n).primary hs₇ hhost
  obtain ⟨h₃, R₉, rfl, hs₉⟩ := eq_cons_of_expect hs₈ h₃ (by decide)
  obtain ⟨ws, ⟨R₁₀, rfl, hs₁₀⟩, hport⟩ := (readsAt n).primary hs₉ hport
  obtain ⟨hc, R₁₁, rfl, hs₁₁⟩ := eq_cons_of_expect hs₁₀ hc (by decide)
  exact ⟨_, (Took.nil hs₁₁).cons.append.cons.append.cons.append.cons.cons.cons.cons.cons,
    .intro hword hname ho hhandler h₁ hdescription h₂ hhost h₃ hport hc⟩

/-- So does a client channel. -/
theorem clientChannel_reads : Reads Client (Reader.clientChannel n) := by
  intro R s c s' hs h
  simp only [Reader.clientChannel, bind_eq_ok, pure_eq_ok] at h
  obtain ⟨word, s₁, hword, name, s₂, hname, opening, s₃, ho, host, s₄, hhost, comma, s₅, hcomma,
    port, s₆, hport, closing, s₇, hc, rfl, rfl⟩ := h
  obtain ⟨hword, R₁, rfl, hs₁⟩ := eq_cons_of_expect hs hword (by decide)
  obtain ⟨hname, R₂, rfl, hs₂⟩ := eq_cons_of_expect hs₁ hname (by decide)
  obtain ⟨ho, R₃, rfl, hs₃⟩ := eq_cons_of_expect hs₂ ho (by decide)
  obtain ⟨us, ⟨R₄, rfl, hs₄⟩, hhost⟩ := (readsAt n).primary hs₃ hhost
  obtain ⟨hcomma, R₅, rfl, hs₅⟩ := eq_cons_of_expect hs₄ hcomma (by decide)
  obtain ⟨vs, ⟨R₆, rfl, hs₆⟩, hport⟩ := (readsAt n).primary hs₅ hport
  obtain ⟨hc, R₇, rfl, hs₇⟩ := eq_cons_of_expect hs₆ hc (by decide)
  exact ⟨_, (Took.nil hs₇).cons.append.cons.append.cons.cons.cons,
    .intro hword hname ho hhost hcomma hport hc⟩

/-- Only an assignment is derived as one. -/
theorem Simple.assign_inv {ts : List Token} {a : Assignment} (h : Simple ts (.assign a)) :
    Assign ts a := by
  cases h with
  | assign h => exact h

/-- The update of a loop takes an assignment, for everything else is refused. -/
theorem update_reads : Reads Assign (Reader.update n) := by
  intro R s a s' hs h
  simp only [Reader.update, bind_eq_ok, peek_eq_ok] at h
  obtain ⟨_, _, ⟨rfl, rfl⟩, stmt, s₁, hsimple, h⟩ := h
  obtain ⟨ts, htook, hsimple⟩ := simple_reads hs hsimple
  cases stmt with
  | assign a' =>
    obtain ⟨rfl, rfl⟩ := pure_eq_ok.mp h
    exact ⟨ts, htook, hsimple.assign_inv⟩
  | _ =>
    simp only [bind_eq_ok] at h
    obtain ⟨_, _, _, h⟩ := h
    cases h

/-- What is to be shown of the readers of statements at the budget `n`. -/
structure StatementReadsAt (n : Nat) : Prop where
  statements : Reads Statements (Reader.statements n)
  statement : Reads Statement (Reader.statement n)
  block : Reads Braces (Reader.block n)

namespace StatementReadsAt

/-- Statements are taken one after the other up to a token that closes them. -/
theorem statements_succ (ih : StatementReadsAt n) :
    Reads Statements (Reader.statements (n + 1)) := by
  intro R s ss s' hs h
  simp only [Reader.statements, bind_eq_ok, peek_eq_ok] at h
  obtain ⟨_, _, ⟨rfl, rfl⟩, h⟩ := h
  split at h
  · obtain ⟨rfl, rfl⟩ := pure_eq_ok.mp h
    exact ⟨[], .nil hs, .none⟩
  · simp only [bind_eq_ok, pure_eq_ok] at h
    obtain ⟨first, s₁, hfirst, rest, s₂, hrest, rfl, rfl⟩ := h
    obtain ⟨us, ⟨R₁, rfl, hs₁⟩, hfirst⟩ := ih.statement hs hfirst
    obtain ⟨vs, htook, hrest⟩ := ih.statements hs₁ hrest
    exact ⟨us ++ vs, htook.append, .cons hfirst hrest⟩

/-- A block takes its braces and the statements between them. -/
theorem block_succ (ih : StatementReadsAt n) : Reads Braces (Reader.block (n + 1)) := by
  intro R s b s' hs h
  simp only [Reader.block, bind_eq_ok, pure_eq_ok] at h
  obtain ⟨opening, s₁, hopening, body, s₂, hbody, closing, s₃, hclosing, rfl, rfl⟩ := h
  obtain ⟨ho, R₁, rfl, hs₁⟩ := eq_cons_of_expect hs hopening (by decide)
  obtain ⟨us, ⟨R₂, rfl, hs₂⟩, hbody⟩ := ih.statements hs₁ hbody
  obtain ⟨hc, R₃, rfl, hs₃⟩ := eq_cons_of_expect hs₂ hclosing (by decide)
  exact ⟨_, ((Took.nil hs₃).cons.append).cons, .intro ho hbody hc⟩

/-! ### One lemma for each form

Which form a statement has is said by the kind of its first token. -/

section

variable {R : List (Except LexError Token)} {s s' : TokenStream} {stmt : Stmt}

/-- A function behind its parameters. -/
theorem function_reads {word name opening : Token} {us : List Token} {ps : List Param}
    (ih : StatementReadsAt n) (hword : word.kind = .func) (hname : name.kind = .identifier)
    (ho : opening.kind = .leftParen) (hps : ParameterList us ps) (hs : Stream R s)
    (h : (do
      let _ ← expect .rightParen
      let _ ← expect .arrow
      let returns ← typeExpr n
      let body ← Reader.block n
      return Stmt.function ⟨word.line, name.lexeme, ps, returns, body⟩) s = .ok (stmt, s')) :
    ∃ ts, Took R ts s' ∧ Statement (word :: name :: opening :: (us ++ ts)) stmt := by
  simp only [bind_eq_ok, pure_eq_ok] at h
  obtain ⟨closing, s₁, hc, arrow, s₂, harrow, type, s₃, htype, body, s₄, hbody, rfl, rfl⟩ := h
  obtain ⟨hc, R₁, rfl, hs₁⟩ := eq_cons_of_expect hs hc (by decide)
  obtain ⟨harrow, R₂, rfl, hs₂⟩ := eq_cons_of_expect hs₁ harrow (by decide)
  obtain ⟨vs, ⟨R₃, rfl, hs₃⟩, htype⟩ := typeExpr_reads hs₂ htype
  obtain ⟨ws, htook, hbody⟩ := ih.block hs₃ hbody
  exact ⟨_, htook.append.cons.cons, .function hword hname ho hps hc harrow htype hbody⟩

/-- A function, with parameters or without. -/
theorem statement_func (ih : StatementReadsAt n) (hs : Stream R s)
    (hkind : s.lookahead.kind = .func) (h : Reader.statement (n + 1) s = .ok (stmt, s')) :
    ∃ ts, Took R ts s' ∧ Statement ts stmt := by
  rw [Reader.statement, bind_apply_ok (peek_eq_ok.mpr ⟨rfl, rfl⟩), hkind] at h
  simp only [bind_eq_ok, check_eq_ok] at h
  obtain ⟨word, s₁, hword, name, s₂, hname, opening, s₃, ho, b, _, ⟨-, rfl⟩, h⟩ := h
  obtain ⟨hword, R₁, rfl, hs₁⟩ := eq_cons_of_advance_kind hs hkind (by decide) hword
  obtain ⟨hname, R₂, rfl, hs₂⟩ := eq_cons_of_expect hs₁ hname (by decide)
  obtain ⟨ho, R₃, rfl, hs₃⟩ := eq_cons_of_expect hs₂ ho (by decide)
  cases b with
  | true =>
    obtain ⟨ts, htook, hfunction⟩ := ih.function_reads hword hname ho .none hs₃ h
    exact ⟨_, htook.cons.cons.cons, hfunction⟩
  | false =>
    rw [if_neg Bool.false_ne_true, bind_eq_ok] at h
    obtain ⟨ps, s₄, hps, h⟩ := h
    obtain ⟨us, ⟨R₄, rfl, hs₄⟩, hps⟩ := params_reads hs₃ hps
    obtain ⟨ts, htook, hfunction⟩ := ih.function_reads hword hname ho (.some hps) hs₄ h
    exact ⟨_, htook.append.cons.cons.cons, hfunction⟩

/-- A branch. If the word `else` comes next, the other block is read as well. -/
theorem statement_if (ih : StatementReadsAt n) (hs : Stream R s)
    (hkind : s.lookahead.kind = .ifBranch) (h : Reader.statement (n + 1) s = .ok (stmt, s')) :
    ∃ ts, Took R ts s' ∧ Statement ts stmt := by
  rw [Reader.statement, bind_apply_ok (peek_eq_ok.mpr ⟨rfl, rfl⟩), hkind] at h
  simp only [bind_eq_ok] at h
  obtain ⟨word, s₁, hword, e, s₂, he, yes, s₃, hyes, b, s₄, hb, h⟩ := h
  obtain ⟨hword, R₁, rfl, hs₁⟩ := eq_cons_of_advance_kind hs hkind (by decide) hword
  obtain ⟨_, ⟨R₂, rfl, hs₂⟩, opening, ts, closing, rfl, ho, he, hc⟩ := condition_reads hs₁ he
  obtain ⟨us, ⟨R₃, rfl, hs₃⟩, hbraces⟩ := ih.block hs₂ hyes
  rcases eq_cons_of_accept hs₃ hb (by decide) with
    ⟨rfl, other, R₄, hother, rfl, hs₄⟩ | ⟨rfl, rfl, -⟩
  · simp only [if_true, bind_eq_ok, pure_eq_ok] at h
    obtain ⟨no, s₅, hno, rfl, rfl⟩ := h
    obtain ⟨vs, htook, hno⟩ := ih.block hs₄ hno
    refine ⟨_, htook.cons.append.append.cons, ?_⟩
    simpa using Statement.branchElse hword ho he hc hbraces hother hno
  · obtain ⟨rfl, rfl⟩ := pure_eq_ok.mp h
    refine ⟨_, (Took.nil hs₃).append.append.cons, ?_⟩
    simpa using Statement.branch hword ho he hc hbraces

/-- A `while` loop. -/
theorem statement_while (ih : StatementReadsAt n) (hs : Stream R s)
    (hkind : s.lookahead.kind = .whileLoop) (h : Reader.statement (n + 1) s = .ok (stmt, s')) :
    ∃ ts, Took R ts s' ∧ Statement ts stmt := by
  rw [Reader.statement, bind_apply_ok (peek_eq_ok.mpr ⟨rfl, rfl⟩), hkind] at h
  simp only [bind_eq_ok, pure_eq_ok] at h
  obtain ⟨word, s₁, hword, e, s₂, he, body, s₃, hbody, rfl, rfl⟩ := h
  obtain ⟨hword, R₁, rfl, hs₁⟩ := eq_cons_of_advance_kind hs hkind (by decide) hword
  obtain ⟨_, ⟨R₂, rfl, hs₂⟩, opening, ts, closing, rfl, ho, he, hc⟩ := condition_reads hs₁ he
  obtain ⟨us, htook, hbody⟩ := ih.block hs₂ hbody
  refine ⟨_, htook.append.cons, ?_⟩
  simpa using Statement.while hword ho he hc hbody

/-- A `for` loop. Its three clauses are read in the order in which they are written. -/
theorem statement_for (ih : StatementReadsAt n) (hs : Stream R s)
    (hkind : s.lookahead.kind = .forLoop) (h : Reader.statement (n + 1) s = .ok (stmt, s')) :
    ∃ ts, Took R ts s' ∧ Statement ts stmt := by
  rw [Reader.statement, bind_apply_ok (peek_eq_ok.mpr ⟨rfl, rfl⟩), hkind] at h
  simp only [bind_eq_ok, pure_eq_ok] at h
  obtain ⟨word, s₁, hword, opening, s₂, ho, init, s₃, hinit, semi₁, s₄, h₁, e, s₅, he,
    semi₂, s₆, h₂, step, s₇, hstep, closing, s₈, hc, body, s₉, hbody, rfl, rfl⟩ := h
  obtain ⟨hword, R₁, rfl, hs₁⟩ := eq_cons_of_advance_kind hs hkind (by decide) hword
  obtain ⟨ho, R₂, rfl, hs₂⟩ := eq_cons_of_expect hs₁ ho (by decide)
  obtain ⟨us, ⟨R₃, rfl, hs₃⟩, hinit⟩ := simple_reads hs₂ hinit
  obtain ⟨h₁, R₄, rfl, hs₄⟩ := eq_cons_of_expect hs₃ h₁ (by decide)
  obtain ⟨ts, ⟨R₅, rfl, hs₅⟩, he⟩ := (readsAt n).expression hs₄ he
  obtain ⟨h₂, R₆, rfl, hs₆⟩ := eq_cons_of_expect hs₅ h₂ (by decide)
  obtain ⟨vs, ⟨R₇, rfl, hs₇⟩, hstep⟩ := update_reads hs₆ hstep
  obtain ⟨hc, R₈, rfl, hs₈⟩ := eq_cons_of_expect hs₇ hc (by decide)
  obtain ⟨ws, htook, hbody⟩ := ih.block hs₈ hbody
  exact ⟨_, htook.cons.append.cons.append.cons.append.cons.cons,
    .for hword ho hinit h₁ he h₂ hstep hc hbody⟩

/-- A block behind the word `seq`. -/
theorem statement_seq (ih : StatementReadsAt n) (hs : Stream R s)
    (hkind : s.lookahead.kind = .seq) (h : Reader.statement (n + 1) s = .ok (stmt, s')) :
    ∃ ts, Took R ts s' ∧ Statement ts stmt := by
  rw [Reader.statement, bind_apply_ok (peek_eq_ok.mpr ⟨rfl, rfl⟩), hkind] at h
  simp only [bind_eq_ok, pure_eq_ok] at h
  obtain ⟨word, s₁, hword, body, s₂, hbody, rfl, rfl⟩ := h
  obtain ⟨hword, R₁, rfl, hs₁⟩ := eq_cons_of_advance_kind hs hkind (by decide) hword
  obtain ⟨ts, htook, hbody⟩ := ih.block hs₁ hbody
  exact ⟨_, htook.cons, .seq hword hbody⟩

/-- A block behind the word `par`. -/
theorem statement_par (ih : StatementReadsAt n) (hs : Stream R s)
    (hkind : s.lookahead.kind = .par) (h : Reader.statement (n + 1) s = .ok (stmt, s')) :
    ∃ ts, Took R ts s' ∧ Statement ts stmt := by
  rw [Reader.statement, bind_apply_ok (peek_eq_ok.mpr ⟨rfl, rfl⟩), hkind] at h
  simp only [bind_eq_ok, pure_eq_ok] at h
  obtain ⟨word, s₁, hword, body, s₂, hbody, rfl, rfl⟩ := h
  obtain ⟨hword, R₁, rfl, hs₁⟩ := eq_cons_of_advance_kind hs hkind (by decide) hword
  obtain ⟨ts, htook, hbody⟩ := ih.block hs₁ hbody
  exact ⟨_, htook.cons, .par hword hbody⟩

/-- A block of its own. -/
theorem statement_block (ih : StatementReadsAt n) (hs : Stream R s)
    (hkind : s.lookahead.kind = .leftBrace) (h : Reader.statement (n + 1) s = .ok (stmt, s')) :
    ∃ ts, Took R ts s' ∧ Statement ts stmt := by
  rw [Reader.statement, bind_apply_ok (peek_eq_ok.mpr ⟨rfl, rfl⟩), hkind] at h
  simp only [bind_eq_ok, pure_eq_ok] at h
  obtain ⟨body, s₁, hbody, rfl, rfl⟩ := h
  obtain ⟨ts, htook, hbody⟩ := ih.block hs hbody
  exact ⟨ts, htook, .block hbody⟩

/-- A server or a client channel, which begins with its own word. -/
theorem statement_server (hs : Stream R s) (hkind : s.lookahead.kind = .serverChannel)
    (h : Reader.statement (n + 1) s = .ok (stmt, s')) : ∃ ts, Took R ts s' ∧ Statement ts stmt := by
  rw [Reader.statement, bind_apply_ok (peek_eq_ok.mpr ⟨rfl, rfl⟩), hkind] at h
  simp only [bind_eq_ok, pure_eq_ok] at h
  obtain ⟨c, s₁, hc, rfl, rfl⟩ := h
  obtain ⟨ts, htook, hc⟩ := serverChannel_reads hs hc
  exact ⟨ts, htook, .server hc⟩

/-- A client channel is told by its word. -/
theorem statement_client (hs : Stream R s) (hkind : s.lookahead.kind = .clientChannel)
    (h : Reader.statement (n + 1) s = .ok (stmt, s')) : ∃ ts, Took R ts s' ∧ Statement ts stmt := by
  rw [Reader.statement, bind_apply_ok (peek_eq_ok.mpr ⟨rfl, rfl⟩), hkind] at h
  simp only [bind_eq_ok, pure_eq_ok] at h
  obtain ⟨c, s₁, hc, rfl, rfl⟩ := h
  obtain ⟨ts, htook, hc⟩ := clientChannel_reads hs hc
  exact ⟨ts, htook, .client hc⟩

end

/-- A token that begins none of the other forms is left to the reader of statements without a block. -/
theorem statement_succ (ih : StatementReadsAt n) : Reads Statement (Reader.statement (n + 1)) := by
  intro R s stmt s' hs h
  cases hkind : s.lookahead.kind with
  | func => exact ih.statement_func hs hkind h
  | ifBranch => exact ih.statement_if hs hkind h
  | whileLoop => exact ih.statement_while hs hkind h
  | forLoop => exact ih.statement_for hs hkind h
  | seq => exact ih.statement_seq hs hkind h
  | par => exact ih.statement_par hs hkind h
  | serverChannel => exact statement_server hs hkind h
  | clientChannel => exact statement_client hs hkind h
  | leftBrace => exact ih.statement_block hs hkind h
  | _ =>
    rw [Reader.statement, bind_apply_ok (peek_eq_ok.mpr ⟨rfl, rfl⟩), hkind] at h
    obtain ⟨ts, htook, hsimple⟩ := simple_reads hs h
    exact ⟨ts, htook, .simple hsimple⟩

end StatementReadsAt

/-- **The readers of statements accept only what the grammar derives**, at every budget. -/
theorem statementReadsAt (n : Nat) : StatementReadsAt n := by
  induction n with
  | zero =>
    exact ⟨fun _ h => absurd h not_spent_eq_ok, fun _ h => absurd h not_spent_eq_ok,
      fun _ h => absurd h not_spent_eq_ok⟩
  | succ n ih => exact ⟨ih.statements_succ, ih.statement_succ, ih.block_succ⟩

end Grammar

end ParLang
