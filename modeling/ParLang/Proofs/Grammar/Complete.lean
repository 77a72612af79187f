import ParLang.Proofs.Grammar.Sound

/-!
# Readers accept all that the grammar derives

A reader that stands before tokens which derive something reads just these tokens, if what follows
does not go on with them and the budget suffices. Nothing that can follow does: behind an expression
stands a closing mark, a separator or the start of a statement, and no statement starts with an operator,
a bracket, a parenthesis or a point. Eight steps for each token suffice.

For the binary operators `Level.climbs` says how far the climbing reader is when it has read an
expression of a level: it goes on climbing with that expression as its left operand.
-/

namespace ParLang

namespace Grammar

open Reader TokenStream

/-! ## What may follow -/

/-- A token of the kind does not go on with an operand: it is no call, no index and no fraction. -/
def endsOperand (kind : Token.Kind) : Bool :=
  kind != .leftParen && kind != .leftBracket && kind != .dot

/-- A token of the kind does not go on with an expression. -/
def endsExpression (kind : Token.Kind) : Bool :=
  endsOperand kind && (binaryOp? kind).isNone

/-- The kind of the next token. -/
def nextKind (ts : List Token) : Token.Kind :=
  (ofTokens ts).lookahead.kind

/-- The kind in front of a list is that of its first token. -/
@[simp] theorem nextKind_cons (t : Token) (ts : List Token) : nextKind (t :: ts) = t.kind := rfl

variable {n k least : Nat} {rest ts : List Token} {e : Expr} {kind : Token.Kind}

/-- Where an expression may end no operator follows, whatever its level. -/
theorem below_one (h : endsExpression (nextKind rest)) : Below 1 (ofTokens rest) := by
  intro op hop
  rw [endsExpression, Bool.and_eq_true] at h
  rw [show binaryOp? (nextKind rest) = some op from hop] at h
  exact absurd h.2 (by simp)

/-- An operand may end where an expression may. -/
theorem endsOperand_of_endsExpression (h : endsExpression kind) : endsOperand kind :=
  ((Bool.and_eq_true _ _).mp h).1

/-- An operand may end in front of an operator. -/
theorem endsOperand_of_operator {op : BinaryOp} (h : Operator k kind op) : endsOperand kind := by
  cases h <;> rfl

/-- What ends a looser level ends a tighter one. -/
theorem Below.mono {s : TokenStream} {j : Nat} (h : Below k s) (hk : k ≤ j) : Below j s :=
  fun op hop => Nat.lt_of_lt_of_le (h op hop) hk

/-! ## Steps of the readers -/

/-- Where no operator of the level follows, what was read is all of it. -/
theorem climb_stops {s : TokenStream} (h : Below least s) :
    Reader.climb (n + 1) least e s = .ok (e, s) := by
  simp only [Reader.climb, bind_eq_ok, peek_eq_ok]
  refine ⟨_, _, ⟨rfl, rfl⟩, ?_⟩
  cases hop : binaryOp? s.lookahead.kind with
  | none => rfl
  | some op =>
    have := h op hop
    dsimp only
    rw [if_neg (by omega)]
    rfl

/-- An operator of the level takes its right operand from the level above, and the loop goes on behind it.
-/
theorem climb_operator {sign : Token} {op : BinaryOp} {left : Expr} (hop : Operator k sign.kind op)
    (hk : least ≤ k) :
    Reader.climb (n + 1) least left (ofTokens (sign :: rest)) =
      (do
        let right ← Reader.binary n (k + 1)
        Reader.climb n least (.binary sign.line op left right)) (ofTokens rest) := by
  obtain ⟨hkind, rfl⟩ := operator_iff.mp hop
  rw [Reader.climb, bind_apply_ok (peek_eq_ok.mpr ⟨rfl, rfl⟩), lookahead_ofTokens_cons, hkind]
  dsimp only
  rw [if_pos hk, bind_apply_ok (advance_ofTokens _ _)]

/-- An operand is not empty. -/
theorem Primary.length_pos (h : Primary ts e) : 0 < ts.length := by
  cases h <;> simp

/-- Nor is an operand with the operators in front of it. The depth that reading needs is counted in tokens.
-/
theorem Unary.length_pos (h : Unary ts e) : 0 < ts.length := by
  cases h with
  | primary h => exact h.length_pos
  | neg => simp
  | not => simp

/-- No primary starts with an operator. -/
theorem Primary.unaryOp?_eq_none (h : Primary ts e) : unaryOp? (nextKind (ts ++ rest)) = none := by
  cases h <;> simp_all [unaryOp?]

/-- The token in front has the kind that is asked for. -/
theorem check_eq_true {t : Token} (h : t.kind = kind) :
    check kind (ofTokens (t :: rest)) = .ok (true, ofTokens (t :: rest)) :=
  check_eq_ok.mpr ⟨by simp [h], rfl⟩

/-- The token in front, if there is one, has another kind. -/
theorem check_eq_false (h : nextKind rest ≠ kind) :
    check kind (ofTokens rest) = .ok (false, ofTokens rest) :=
  check_eq_ok.mpr ⟨by simpa [nextKind] using h, rfl⟩

/-- A number that no point follows. -/
theorem number_complete {t : Token} {x : Float} (ht : t.kind = .number)
    (hx : Number.readDecimal? t.lexeme = some x) (hrest : nextKind rest ≠ .dot) :
    Reader.number (ofTokens (t :: rest)) = .ok (.number t.line x, ofTokens rest) := by
  simp only [Reader.number, numberText, bind_eq_ok]
  refine ⟨t, _, expect_ofTokens ht, t.lexeme, _, ⟨false, _, accept_eq_false hrest, rfl⟩, ?_⟩
  rw [hx]; rfl

/-- A fraction is read as the number that its three tokens spell together. -/
theorem fraction_complete {t dot u : Token} {x : Float} (ht : t.kind = .number)
    (hdot : dot.kind = .dot) (hu : u.kind = .number)
    (hx : Number.readDecimal? (t.lexeme ++ "." ++ u.lexeme) = some x) :
    Reader.number (ofTokens (t :: dot :: u :: rest)) = .ok (.number t.line x, ofTokens rest) := by
  simp only [Reader.number, numberText, bind_eq_ok]
  refine ⟨t, _, expect_ofTokens ht, t.lexeme ++ "." ++ u.lexeme, ofTokens rest,
    ⟨true, _, accept_ofTokens hdot, ?_⟩, ?_⟩
  · simp only [if_true, bind_eq_ok]
    refine ⟨true, _, check_eq_true hu, ?_⟩
    simp only [if_true, bind_eq_ok]
    exact ⟨u, _, advance_ofTokens u rest, rfl⟩
  · rw [hx]; rfl

/-! ## Expressions -/

/-- A token of the kind can start an expression. -/
def startsExpression : Token.Kind → Bool
  | .number | .string | .trueWord | .falseWord | .identifier | .leftBracket | .leftParen | .minus
  | .bang => true
  | _ => false

/-- An operand starts with a token that can start an expression, so it is told from the end of a list. -/
theorem Primary.starts (h : Primary ts e) : startsExpression (nextKind (ts ++ rest)) := by
  cases h <;> simp_all [startsExpression]

/-- An operand with operators in front starts like an expression. -/
theorem Unary.starts (h : Unary ts e) : startsExpression (nextKind (ts ++ rest)) := by
  cases h with
  | primary h => exact h.starts
  | neg hsign => simp [hsign, startsExpression]
  | not hsign => simp [hsign, startsExpression]

/-- So does an expression of any level. -/
theorem Level.starts : ∀ {k ts e}, Level k ts e → ∀ {rest},
    startsExpression (nextKind (ts ++ rest))
  | _, _, _, .tighter h, _ => h.starts
  | _, _, _, .binary hl _ _, _ => by rw [List.append_assoc]; exact hl.starts
  | _, _, _, .unary h, _ => h.starts

/-- So does a list of expressions. -/
theorem Items.starts {es : List Expr} (h : Items ts es) :
    startsExpression (nextKind (ts ++ rest)) := by
  cases h with
  | one h => exact h.starts
  | cons h => rw [List.append_assoc]; exact h.starts

/-- A kind at which no expression starts is not the one in front. -/
theorem ne_of_starts {kind' : Token.Kind} (h : startsExpression kind)
    (hkind : startsExpression kind' = false) : kind ≠ kind' := by
  rintro rfl
  rw [hkind] at h
  exact absurd h (by decide)

/-- An operator in front is read with its operand. -/
theorem unary_operator {sign : Token} {op : UnaryOp} (hop : unaryOp? sign.kind = some op)
    (h : Reader.unary n (ofTokens ts) = .ok (e, ofTokens rest)) :
    Reader.unary (n + 1) (ofTokens (sign :: ts)) = .ok (.unary sign.line op e, ofTokens rest) := by
  rw [Reader.unary, bind_apply_ok (peek_eq_ok.mpr ⟨rfl, rfl⟩), lookahead_ofTokens_cons, hop]
  dsimp only
  rw [bind_apply_ok (advance_ofTokens _ _), bind_apply_ok h]
  rfl

/-- A climb that is behind an expression ends there if nothing goes on with it. -/
theorem expression_complete {m : Nat} {s : TokenStream}
    (h : Below 2 (ofTokens rest) → endsOperand (nextKind rest) →
      ∃ n', n ≤ n' + m ∧ Reader.binary n 1 s = Reader.climb n' 1 e (ofTokens rest))
    (hm : m < n) (hrest : endsExpression (nextKind rest)) :
    Reader.expression (n + 1) s = .ok (e, ofTokens rest) := by
  have hbelow := (below_one hrest).mono (Nat.le_succ 1)
  obtain ⟨n', hn', h⟩ := h hbelow (endsOperand_of_endsExpression hrest)
  obtain ⟨n', rfl⟩ : ∃ i, n' = i + 1 := ⟨n' - 1, by omega⟩
  rw [Reader.expression, h, climb_stops (below_one hrest)]

/-- No arguments. -/
theorem arguments_none {opening closing : Token} (ho : opening.kind = .leftParen)
    (hc : closing.kind = .rightParen) :
    Reader.arguments (n + 1) (ofTokens (opening :: closing :: rest)) = .ok ([], ofTokens rest) := by
  rw [Reader.arguments, bind_apply_ok (expect_ofTokens ho), bind_apply_ok (accept_ofTokens hc)]
  rfl

/-- Arguments, at least one. -/
theorem arguments_some {opening closing : Token} {args : List Expr}
    (ho : opening.kind = .leftParen) (hc : closing.kind = .rightParen)
    (hstart : startsExpression (nextKind (ts ++ closing :: rest)))
    (h : Reader.expressions n (ofTokens (ts ++ closing :: rest)) =
      .ok (args, ofTokens (closing :: rest))) :
    Reader.arguments (n + 1) (ofTokens (opening :: (ts ++ closing :: rest))) =
      .ok (args, ofTokens rest) := by
  rw [Reader.arguments, bind_apply_ok (expect_ofTokens ho),
    bind_apply_ok (accept_eq_false (ne_of_starts hstart rfl))]
  simp only [Bool.false_eq_true, if_false]
  rw [bind_apply_ok h, bind_apply_ok (expect_ofTokens hc)]
  rfl

/-- A text. -/
theorem primary_string {t : Token} (ht : t.kind = .string) :
    Reader.primary (n + 1) (ofTokens (t :: rest)) = .ok (.text t.line t.lexeme, ofTokens rest) := by
  rw [Reader.primary, bind_apply_ok (peek_eq_ok.mpr ⟨rfl, rfl⟩), lookahead_ofTokens_cons, ht]
  dsimp only
  rw [bind_apply_ok (advance_ofTokens _ _)]
  rfl

/-- One of the two truth values. -/
theorem primary_truth {t : Token} {b : Bool}
    (ht : t.kind = if b then .trueWord else .falseWord) :
    Reader.primary (n + 1) (ofTokens (t :: rest)) = .ok (.truth t.line b, ofTokens rest) := by
  rw [Reader.primary, bind_apply_ok (peek_eq_ok.mpr ⟨rfl, rfl⟩), lookahead_ofTokens_cons, ht]
  cases b <;> exact bind_apply_ok (advance_ofTokens _ _)

/-- A number, which may be a fraction. -/
theorem primary_number {t : Token} (ht : t.kind = .number) :
    Reader.primary (n + 1) (ofTokens (t :: rest)) = Reader.number (ofTokens (t :: rest)) := by
  rw [Reader.primary, bind_apply_ok (peek_eq_ok.mpr ⟨rfl, rfl⟩), lookahead_ofTokens_cons, ht]

/-- A name alone, with neither parenthesis nor bracket behind it. -/
theorem primary_name {t : Token} (ht : t.kind = .identifier) (hrest : endsOperand (nextKind rest)) :
    Reader.primary (n + 1) (ofTokens (t :: rest)) =
      .ok (.ident t.line t.lexeme, ofTokens rest) := by
  rw [Reader.primary, bind_apply_ok (peek_eq_ok.mpr ⟨rfl, rfl⟩), lookahead_ofTokens_cons, ht]
  dsimp only
  simp only [endsOperand, Bool.and_eq_true, bne_iff_ne] at hrest
  rw [bind_apply_ok (advance_ofTokens _ _), bind_apply_ok (check_eq_false hrest.1.1)]
  simp only [Bool.false_eq_true, if_false]
  rw [bind_apply_ok (accept_eq_false hrest.1.2)]
  rfl

/-- A call. -/
theorem primary_call {t opening : Token} {args : List Expr} (ht : t.kind = .identifier)
    (ho : opening.kind = .leftParen)
    (h : Reader.arguments n (ofTokens (opening :: ts)) = .ok (args, ofTokens rest)) :
    Reader.primary (n + 1) (ofTokens (t :: opening :: ts)) =
      .ok (.call t.line t.lexeme args, ofTokens rest) := by
  rw [Reader.primary, bind_apply_ok (peek_eq_ok.mpr ⟨rfl, rfl⟩), lookahead_ofTokens_cons, ht]
  dsimp only
  rw [bind_apply_ok (advance_ofTokens _ _), bind_apply_ok (check_eq_true ho)]
  simp only [if_true]
  rw [bind_apply_ok h]
  rfl

/-- A name with an index. -/
theorem primary_index {t opening closing : Token} (ht : t.kind = .identifier)
    (ho : opening.kind = .leftBracket) (hc : closing.kind = .rightBracket)
    (h : Reader.expression n (ofTokens ts) = .ok (e, ofTokens (closing :: rest))) :
    Reader.primary (n + 1) (ofTokens (t :: opening :: ts)) =
      .ok (.index t.line (.ident t.line t.lexeme) e, ofTokens rest) := by
  rw [Reader.primary, bind_apply_ok (peek_eq_ok.mpr ⟨rfl, rfl⟩), lookahead_ofTokens_cons, ht]
  dsimp only
  rw [bind_apply_ok (advance_ofTokens _ _),
    bind_apply_ok (check_eq_false (by rw [nextKind_cons, ho]; decide))]
  simp only [Bool.false_eq_true, if_false]
  rw [bind_apply_ok (accept_ofTokens ho)]
  simp only [if_true]
  rw [bind_apply_ok h, bind_apply_ok (expect_ofTokens hc)]
  rfl

/-- An array without items. -/
theorem primary_array_none {opening closing : Token} (ho : opening.kind = .leftBracket)
    (hc : closing.kind = .rightBracket) :
    Reader.primary (n + 1) (ofTokens (opening :: closing :: rest)) =
      .ok (.array opening.line [], ofTokens rest) := by
  rw [Reader.primary, bind_apply_ok (peek_eq_ok.mpr ⟨rfl, rfl⟩), lookahead_ofTokens_cons, ho]
  dsimp only
  rw [bind_apply_ok (advance_ofTokens _ _), bind_apply_ok (check_eq_true hc), if_pos rfl,
    bind_apply_ok (pure_eq_ok.mpr ⟨rfl, rfl⟩), bind_apply_ok (expect_ofTokens hc)]
  rfl

/-- An array with items, at least one. -/
theorem primary_array_some {opening closing : Token} {items : List Expr}
    (ho : opening.kind = .leftBracket) (hc : closing.kind = .rightBracket)
    (hstart : startsExpression (nextKind ts))
    (h : Reader.expressions n (ofTokens ts) = .ok (items, ofTokens (closing :: rest))) :
    Reader.primary (n + 1) (ofTokens (opening :: ts)) =
      .ok (.array opening.line items, ofTokens rest) := by
  rw [Reader.primary, bind_apply_ok (peek_eq_ok.mpr ⟨rfl, rfl⟩), lookahead_ofTokens_cons, ho]
  dsimp only
  rw [bind_apply_ok (advance_ofTokens _ _),
    bind_apply_ok (check_eq_false (ne_of_starts hstart rfl))]
  simp only [Bool.false_eq_true, if_false]
  rw [bind_apply_ok h, bind_apply_ok (expect_ofTokens hc)]
  rfl

/-- An expression in parentheses. -/
theorem primary_parens {opening closing : Token} (ho : opening.kind = .leftParen)
    (hc : closing.kind = .rightParen)
    (h : Reader.expression n (ofTokens ts) = .ok (e, ofTokens (closing :: rest))) :
    Reader.primary (n + 1) (ofTokens (opening :: ts)) = .ok (e, ofTokens rest) := by
  rw [Reader.primary, bind_apply_ok (peek_eq_ok.mpr ⟨rfl, rfl⟩), lookahead_ofTokens_cons, ho]
  dsimp only
  rw [bind_apply_ok (advance_ofTokens _ _), bind_apply_ok h, bind_apply_ok (expect_ofTokens hc)]
  rfl

/-- The last expression of a list. -/
theorem expressions_last (hrest : nextKind rest ≠ .comma)
    (h : Reader.expression n (ofTokens ts) = .ok (e, ofTokens rest)) :
    Reader.expressions (n + 1) (ofTokens ts) = .ok ([e], ofTokens rest) := by
  rw [Reader.expressions, bind_apply_ok h, bind_apply_ok (accept_eq_false hrest)]
  rfl

/-- An expression of a list with others behind it. -/
theorem expressions_comma {comma : Token} {us : List Token} {es : List Expr}
    (hcomma : comma.kind = .comma)
    (h : Reader.expression n (ofTokens ts) = .ok (e, ofTokens (comma :: us)))
    (hes : Reader.expressions n (ofTokens us) = .ok (es, ofTokens rest)) :
    Reader.expressions (n + 1) (ofTokens ts) = .ok (e :: es, ofTokens rest) := by
  rw [Reader.expressions, bind_apply_ok h, bind_apply_ok (accept_ofTokens hcomma)]
  simp only [if_true]
  rw [bind_apply_ok hes]
  rfl

mutual

/-- The climbing reader reads an expression of a level that it reaches, and goes on behind it. The
operator behind the expression, if there is one, must leave the expression whole. -/
theorem Level.climbs : ∀ {k ts e}, Level k ts e → ∀ {n least rest}, least ≤ k →
    8 * ts.length + 2 ≤ n → Below (k + 1) (ofTokens rest) → endsOperand (nextKind rest) →
    ∃ n', n ≤ n' + ts.length ∧ Reader.binary n least (ofTokens (ts ++ rest)) =
      Reader.climb n' least e (ofTokens rest)
  | _, _, _, .tighter h, n, least, rest, hk, hn, hbelow, hends =>
    h.climbs (by omega) hn (hbelow.mono (by omega)) hends
  | k, _, _, @Level.binary _ us vs sign op l r hl hop hr, n, least, rest, hk, hn, hbelow, hends => by
    simp only [List.length_append, List.length_cons] at hn
    have hsign : Below (k + 1) (ofTokens (sign :: (vs ++ rest))) := by
      intro op' hop'
      obtain ⟨hkind, rfl⟩ := operator_iff.mp hop
      obtain rfl := Option.some.inj (hkind.symm.trans hop')
      omega
    have hus : 8 * us.length + 2 ≤ n := by omega
    obtain ⟨n₁, hn₁, hleft⟩ := hl.climbs hk hus hsign (endsOperand_of_operator hop)
    obtain ⟨n₁, rfl⟩ : ∃ i, n₁ = i + 1 := ⟨n₁ - 1, by omega⟩
    have hvs : 8 * vs.length + 2 ≤ n₁ := by omega
    obtain ⟨n₂, hn₂, hright⟩ := hr.climbs (Nat.le_refl _) hvs (hbelow.mono (by omega)) hends
    obtain ⟨n₂, rfl⟩ : ∃ i, n₂ = i + 1 := ⟨n₂ - 1, by omega⟩
    refine ⟨n₁, by simp only [List.length_append, List.length_cons]; omega, ?_⟩
    rw [List.append_assoc, List.cons_append, hleft, climb_operator hop hk, bind_apply_ok]
    rw [hright, climb_stops hbelow]
  | _, _, _, @Level.unary ts e h, n, least, rest, hk, hn, hbelow, hends => by
    obtain ⟨n, rfl⟩ : ∃ i, n = i + 1 := ⟨n - 1, by omega⟩
    refine ⟨n, by have := h.length_pos; omega, ?_⟩
    rw [Reader.binary, bind_apply_ok (h.read (by omega) hends)]

/-- A phrase of the grammar is read back as what it derives, with a depth of eight for each of its tokens
and what may end it behind it. Here the operators in front of an operand. -/
theorem Unary.read : ∀ {ts e}, Unary ts e → ∀ {n rest}, 8 * ts.length + 1 ≤ n →
    endsOperand (nextKind rest) →
    Reader.unary n (ofTokens (ts ++ rest)) = .ok (e, ofTokens rest)
  | _, _, @Unary.primary ts e h, n, rest, hn, hends => by
    obtain ⟨n, rfl⟩ : ∃ i, n = i + 1 := ⟨n - 1, by omega⟩
    rw [Reader.unary, bind_apply_ok (peek_eq_ok.mpr ⟨rfl, rfl⟩)]
    rw [show unaryOp? (ofTokens (ts ++ rest)).lookahead.kind = none from h.unaryOp?_eq_none]
    exact h.read (by omega) hends
  | _, _, @Unary.neg sign ts e hsign h, n, rest, hn, hends => by
    obtain ⟨n, rfl⟩ : ∃ i, n = i + 1 := ⟨n - 1, by omega⟩
    simp only [List.length_cons] at hn
    exact unary_operator (by rw [hsign]; rfl) (h.read (by omega) hends)
  | _, _, @Unary.not sign ts e hsign h, n, rest, hn, hends => by
    obtain ⟨n, rfl⟩ : ∃ i, n = i + 1 := ⟨n - 1, by omega⟩
    simp only [List.length_cons] at hn
    exact unary_operator (by rw [hsign]; rfl) (h.read (by omega) hends)

/-- The same for an operand itself, one case for each of its forms. -/
theorem Primary.read : ∀ {ts e}, Primary ts e → ∀ {n rest}, 8 * ts.length ≤ n →
    endsOperand (nextKind rest) →
    Reader.primary n (ofTokens (ts ++ rest)) = .ok (e, ofTokens rest)
  | _, _, .number ht hx, n + 1, rest, _, hends => by
    simp only [endsOperand, Bool.and_eq_true, bne_iff_ne] at hends
    exact (primary_number ht).trans (number_complete ht hx hends.2)
  | _, _, .fraction ht hdot hu hx, n + 1, rest, _, _ =>
    (primary_number ht).trans (fraction_complete ht hdot hu hx)
  | _, _, .text ht, n + 1, rest, _, _ => primary_string ht
  | _, _, .true ht, n + 1, rest, _, _ => primary_truth ht
  | _, _, .false ht, n + 1, rest, _, _ => primary_truth ht
  | _, _, .name ht, n + 1, rest, _, hends => primary_name ht hends
  | _, _, .call ht ho .none hc, n + 2, rest, _, _ => primary_call ht ho (arguments_none ho hc)
  | _, _, @Primary.call t opening ts closing args ht ho (.some h) hc, n + 2, rest, hn, _ => by
    simp only [List.length_append, List.length_cons, List.length_nil] at hn
    rw [List.cons_append, List.cons_append, List.append_assoc, List.singleton_append]
    refine primary_call ht ho (arguments_some ho hc h.starts (h.read (by omega) ?_ ?_))
    · simp [hc]
    · rw [nextKind_cons, hc]; rfl
  | _, _, @Primary.index t opening ts closing e ht ho h hc, n + 2, rest, hn, _ => by
    simp only [List.length_append, List.length_cons, List.length_nil] at hn
    rw [List.cons_append, List.cons_append, List.append_assoc, List.singleton_append]
    have hends : endsExpression (nextKind (closing :: rest)) := by rw [nextKind_cons, hc]; rfl
    have hread :=
      expression_complete (h.climbs (n := n) (Nat.le_refl 1) (by omega)) (by omega) hends
    exact primary_index ht ho hc hread
  | _, _, .array ho .none hc, n + 1, rest, _, _ => primary_array_none ho hc
  | _, _, @Primary.array opening ts closing items ho (.some h) hc, n + 1, rest, hn, _ => by
    simp only [List.length_append, List.length_cons, List.length_nil] at hn
    rw [List.cons_append, List.append_assoc, List.singleton_append]
    refine primary_array_some ho hc h.starts (h.read (by omega) ?_ ?_)
    · simp [hc]
    · rw [nextKind_cons, hc]; rfl
  | _, _, @Primary.parens opening ts closing e ho h hc, n + 2, rest, hn, _ => by
    simp only [List.length_append, List.length_cons, List.length_nil] at hn
    rw [List.cons_append, List.append_assoc, List.singleton_append]
    have hends : endsExpression (nextKind (closing :: rest)) := by rw [nextKind_cons, hc]; rfl
    have hread :=
      expression_complete (h.climbs (n := n) (Nat.le_refl 1) (by omega)) (by omega) hends
    exact primary_parens ho hc hread

/-- The same for the items of a list. -/
theorem Items.read : ∀ {ts es}, Items ts es → ∀ {n rest}, 8 * ts.length + 4 ≤ n →
    nextKind rest ≠ .comma → endsExpression (nextKind rest) →
    Reader.expressions n (ofTokens (ts ++ rest)) = .ok (es, ofTokens rest)
  | _, _, @Items.one ts e h, n + 2, rest, hn, hcomma, hends => by
    have hread :=
      expression_complete (h.climbs (n := n) (Nat.le_refl 1) (by omega)) (by omega) hends
    exact expressions_last hcomma hread
  | _, _, @Items.cons ts comma us e es h hsign hrest, n + 2, rest, hn, hcomma, hends => by
    simp only [List.length_append, List.length_cons] at hn
    rw [List.append_assoc, List.cons_append]
    have hends' : endsExpression (nextKind (comma :: (us ++ rest))) := by
      rw [nextKind_cons, hsign]; rfl
    have hread :=
      expression_complete (h.climbs (n := n) (Nat.le_refl 1) (by omega)) (by omega) hends'
    exact expressions_comma hsign hread
      (hrest.read (by omega) hcomma hends)

end

/-- The same for an expression: it is a phrase of the loosest level. -/
theorem Level.read (h : Expression ts e) (hn : 8 * ts.length + 3 ≤ n)
    (hrest : endsExpression (nextKind rest)) :
    Reader.expression n (ofTokens (ts ++ rest)) = .ok (e, ofTokens rest) := by
  obtain ⟨n, rfl⟩ : ∃ i, n = i + 1 := ⟨n - 1, by omega⟩
  exact expression_complete (h.climbs (Nat.le_refl 1) (by omega)) (by omega) hrest

/-- The same for arguments with their parentheses. -/
theorem Listed.read {opening closing : Token} {args : List Expr} (ho : opening.kind = .leftParen)
    (h : Listed ts args) (hc : closing.kind = .rightParen) (hn : 8 * ts.length + 5 ≤ n) :
    Reader.arguments n (ofTokens (opening :: (ts ++ closing :: rest))) =
      .ok (args, ofTokens rest) := by
  obtain ⟨n, rfl⟩ : ∃ i, n = i + 1 := ⟨n - 1, by omega⟩
  cases h with
  | none => exact arguments_none ho hc
  | some h =>
    refine arguments_some ho hc h.starts (h.read (by omega) ?_ ?_)
    · simp [hc]
    · rw [nextKind_cons, hc]; rfl

/-! ## Types and simple statements -/

/-- The same for a type, along its brackets. -/
theorem Annotation.read {type : TypeExpr} (h : Annotation ts type) :
    ∀ {n rest}, 8 * ts.length ≤ n →
      Reader.typeExpr n (ofTokens (ts ++ rest)) = .ok (type, ofTokens rest) := by
  induction h with
  | @named t ht =>
    intro n rest hn
    simp only [List.length_singleton] at hn
    obtain ⟨n, rfl⟩ : ∃ i, n = i + 1 := ⟨n - 1, by omega⟩
    have hbracket : nextKind (t :: rest) ≠ .leftBracket := by simp [ht]
    rw [List.singleton_append, Reader.typeExpr, bind_apply_ok (accept_eq_false hbracket)]
    simp only [Bool.false_eq_true, if_false]
    rw [bind_apply_ok (check_eq_true ht), if_pos rfl, bind_apply_ok (advance_ofTokens _ _)]
    rfl
  | @array opening ts closing type ho _ hc ih =>
    intro n rest hn
    simp only [List.length_append, List.length_cons, List.length_nil] at hn
    obtain ⟨n, rfl⟩ : ∃ i, n = i + 1 := ⟨n - 1, by omega⟩
    rw [List.cons_append, List.append_assoc, List.singleton_append, Reader.typeExpr,
      bind_apply_ok (accept_ofTokens ho), if_pos rfl, bind_apply_ok (ih (by omega)),
      bind_apply_ok (expect_ofTokens hc)]
    rfl

/-- The same for the indexes of a target. -/
theorem Indexes.read {line : Nat} {target target' : Target} (h : Indexes line target ts target') :
    ∀ {n rest}, 8 * ts.length + 1 ≤ n → nextKind rest ≠ .leftBracket →
      Reader.indexChain n line target (ofTokens (ts ++ rest)) = .ok (target', ofTokens rest) := by
  induction h with
  | none =>
    intro n rest hn hrest
    obtain ⟨n, rfl⟩ : ∃ i, n = i + 1 := ⟨n - 1, by omega⟩
    rw [List.nil_append, Reader.indexChain, bind_apply_ok (accept_eq_false hrest)]
    rfl
  | @cons target opening ts e closing us target' ho h hc _ ih =>
    intro n rest hn hrest
    simp only [List.length_append, List.length_cons] at hn
    obtain ⟨n, rfl⟩ : ∃ i, n = i + 1 := ⟨n - 1, by omega⟩
    rw [List.cons_append, List.append_assoc, List.cons_append, Reader.indexChain,
      bind_apply_ok (accept_ofTokens ho), if_pos rfl,
      bind_apply_ok (h.read (by omega) (by rw [nextKind_cons, hc]; rfl)),
      bind_apply_ok (expect_ofTokens hc)]
    exact ih (by omega) hrest

/-- The reader of a simple statement that starts with a name. -/
theorem simple_name {name : Token} {target : Target} {s : TokenStream}
    (hname : name.kind = .identifier)
    (h : Reader.indexChain n name.line (.variable name.line name.lexeme) (ofTokens ts) =
      .ok (target, s)) :
    Reader.simple n (ofTokens (name :: ts)) = Reader.afterTarget n name target s := by
  rw [Reader.simple, bind_apply_ok (peek_eq_ok.mpr ⟨rfl, rfl⟩), lookahead_ofTokens_cons, hname]
  dsimp only
  rw [bind_apply_ok (expect_ofTokens hname), bind_apply_ok h]

/-- A name at the start of a statement that no bracket follows. -/
theorem simple_bare_name {name : Token} (hname : name.kind = .identifier) (hn : 0 < n)
    (hrest : nextKind rest ≠ .leftBracket) :
    Reader.simple n (ofTokens (name :: rest)) =
      Reader.afterTarget n name (.variable name.line name.lexeme) (ofTokens rest) :=
  simple_name hname (Indexes.none.read hn hrest)

/-- A value behind the sign of assignment. -/
theorem afterTarget_assign {name sign : Token} {target : Target} (hsign : sign.kind = .assign)
    (h : Reader.expression n (ofTokens ts) = .ok (e, ofTokens rest)) :
    Reader.afterTarget n name target (ofTokens (sign :: ts)) =
      .ok (.assign ⟨name.line, target, e⟩, ofTokens rest) := by
  have hcolon : nextKind (sign :: ts) ≠ .colon := by simp [hsign]
  cases target with
  | «variable» =>
    unfold Reader.afterTarget
    dsimp only
    rw [bind_apply_ok (accept_eq_false hcolon)]
    simp only [Bool.false_eq_true, if_false]
    rw [bind_apply_ok (accept_ofTokens hsign), if_pos rfl, bind_apply_ok h]
    rfl
  | cell =>
    unfold Reader.afterTarget
    dsimp only
    rw [bind_apply_ok (check_eq_true hsign), if_pos rfl, bind_apply_ok (accept_eq_false hcolon)]
    simp only [Bool.false_eq_true, if_false]
    rw [bind_apply_ok (accept_ofTokens hsign), if_pos rfl, bind_apply_ok h]
    rfl

/-- An assignment is read back, to a name and to a cell. -/
theorem Assign.read {a : Assignment} (h : Assign ts a) (hn : 8 * ts.length ≤ n)
    (hrest : endsExpression (nextKind rest)) :
    Reader.simple n (ofTokens (ts ++ rest)) = .ok (.assign a, ofTokens rest) := by
  cases h with
  | @intro t us target sign ts e ht htarget hsign h =>
    simp only [List.length_append, List.length_cons] at hn
    rw [List.cons_append, List.append_assoc, List.cons_append,
      simple_name ht (htarget.read (by omega) (by simp [hsign]))]
    exact afterTarget_assign hsign (h.read (by omega) hrest)

/-- So is a statement without a block of its own, one case for each of its forms. -/
theorem Simple.read {st : Stmt} (h : Simple ts st) (hn : 8 * ts.length ≤ n)
    (hrest : endsExpression (nextKind rest)) :
    Reader.simple n (ofTokens (ts ++ rest)) = .ok (st, ofTokens rest) := by
  cases h with
  | @«return» word ts e hword h =>
    simp only [List.length_cons] at hn
    rw [List.cons_append, Reader.simple, bind_apply_ok (peek_eq_ok.mpr ⟨rfl, rfl⟩),
      lookahead_ofTokens_cons, hword]
    dsimp only
    rw [bind_apply_ok (advance_ofTokens _ _), bind_apply_ok (h.read (by omega) hrest)]
    rfl
  | @«break» word hword =>
    rw [List.singleton_append, Reader.simple, bind_apply_ok (peek_eq_ok.mpr ⟨rfl, rfl⟩),
      lookahead_ofTokens_cons, hword]
    exact bind_apply_ok (advance_ofTokens _ _)
  | @«continue» word hword =>
    rw [List.singleton_append, Reader.simple, bind_apply_ok (peek_eq_ok.mpr ⟨rfl, rfl⟩),
      lookahead_ofTokens_cons, hword]
    exact bind_apply_ok (advance_ofTokens _ _)
  | @declare t colon us type sign ts e ht hcolon htype hsign h =>
    simp only [List.length_append, List.length_cons] at hn
    rw [List.cons_append, List.cons_append, List.append_assoc, List.cons_append,
      simple_bare_name ht (by omega) (by simp [hcolon])]
    unfold Reader.afterTarget
    dsimp only
    rw [bind_apply_ok (accept_ofTokens hcolon), if_pos rfl, bind_apply_ok (htype.read (by omega)),
      bind_apply_ok (expect_ofTokens hsign), bind_apply_ok (h.read (by omega) hrest)]
    rfl
  | assign h => exact h.read hn hrest
  | @call t opening ts closing args ht ho h hc =>
    simp only [List.length_append, List.length_cons, List.length_nil] at hn
    rw [List.cons_append, List.cons_append, List.append_assoc, List.singleton_append,
      simple_bare_name ht (by omega) (by simp [ho])]
    unfold Reader.afterTarget
    dsimp only
    rw [bind_apply_ok (accept_eq_false (by simp [ho]))]
    simp only [Bool.false_eq_true, if_false]
    rw [bind_apply_ok (accept_eq_false (by simp [ho]))]
    simp only [Bool.false_eq_true, if_false]
    rw [bind_apply_ok (check_eq_true ho), if_pos rfl, bind_apply_ok (h.read ho hc (by omega))]
    rfl

/-! ## Parts of statements -/

/-- A condition in its parentheses is read back. -/
theorem condition_complete {opening closing : Token} (ho : opening.kind = .leftParen)
    (h : Expression ts e) (hc : closing.kind = .rightParen) (hn : 8 * ts.length + 3 ≤ n) :
    Reader.condition n (ofTokens (opening :: (ts ++ closing :: rest))) = .ok (e, ofTokens rest) := by
  rw [Reader.condition, bind_apply_ok (expect_ofTokens ho),
    bind_apply_ok (h.read hn (by rw [nextKind_cons, hc]; rfl)), bind_apply_ok (expect_ofTokens hc)]
  rfl

/-- So is a parameter, if no default follows that is not its own. -/
theorem Parameter.read {p : Param} (h : Parameter ts p) (hn : 8 * ts.length ≤ n)
    (hassign : nextKind rest ≠ .assign) (hrest : endsExpression (nextKind rest)) :
    Reader.param n (ofTokens (ts ++ rest)) = .ok (p, ofTokens rest) := by
  cases h with
  | @plain t colon us type ht hcolon htype =>
    simp only [List.length_cons] at hn
    rw [List.cons_append, List.cons_append, Reader.param, bind_apply_ok (expect_ofTokens ht),
      bind_apply_ok (expect_ofTokens hcolon), bind_apply_ok (htype.read (by omega)),
      bind_apply_ok (accept_eq_false hassign)]
    rfl
  | @default t colon us type sign ts e ht hcolon htype hsign h =>
    simp only [List.length_append, List.length_cons] at hn
    rw [List.cons_append, List.cons_append, List.append_assoc, List.cons_append, Reader.param,
      bind_apply_ok (expect_ofTokens ht), bind_apply_ok (expect_ofTokens hcolon),
      bind_apply_ok (htype.read (by omega)), bind_apply_ok (accept_ofTokens hsign), if_pos rfl,
      bind_apply_ok (map_eq_ok.mpr ⟨e, h.read (by omega) hrest, rfl⟩)]
    rfl

/-- A parameter starts with its name. -/
theorem Parameter.starts {p : Param} (h : Parameter ts p) : nextKind (ts ++ rest) = .identifier := by
  cases h <;> assumption

/-- Parameters start with the name of the first of them. -/
theorem Parameters.starts {ps : List Param} (h : Parameters ts ps) :
    nextKind (ts ++ rest) = .identifier := by
  cases h with
  | one h => exact h.starts
  | cons h => rw [List.append_assoc]; exact h.starts

/-- Parameters are read back up to the closing parenthesis. -/
theorem Parameters.read {ps : List Param} (h : Parameters ts ps) :
    ∀ {n rest}, 8 * ts.length + 1 ≤ n → nextKind rest = .rightParen →
      Reader.params n (ofTokens (ts ++ rest)) = .ok (ps, ofTokens rest) := by
  induction h with
  | one h =>
    intro n rest hn hrest
    obtain ⟨n, rfl⟩ : ∃ i, n = i + 1 := ⟨n - 1, by omega⟩
    rw [Reader.params, bind_apply_ok (h.read (by omega) (by simp [hrest]) (by rw [hrest]; rfl)),
      bind_apply_ok (accept_eq_false (show nextKind rest ≠ .comma by simp [hrest]))]
    rfl
  | @cons ts comma us p ps h hcomma _ ih =>
    intro n rest hn hrest
    simp only [List.length_append, List.length_cons] at hn
    obtain ⟨n, rfl⟩ : ∃ i, n = i + 1 := ⟨n - 1, by omega⟩
    rw [List.append_assoc, List.cons_append, Reader.params,
      bind_apply_ok (h.read (by omega) (by simp [hcomma]) (by rw [nextKind_cons, hcomma]; rfl)),
      bind_apply_ok (accept_ofTokens hcomma), if_pos rfl, bind_apply_ok (ih (by omega) hrest)]
    rfl

/-- A server channel is read back. -/
theorem Server.read {c : ServerChannel} (h : Server ts c) (hn : 8 * ts.length ≤ n) :
    Reader.serverChannel n (ofTokens (ts ++ rest)) = .ok (c, ofTokens rest) := by
  cases h with
  | @intro word name opening handler comma₁ us description comma₂ vs host comma₃ ws port closing
      hword hname ho hhandler h₁ hdescription h₂ hhost h₃ hport hc =>
    simp only [List.length_append, List.length_cons, List.length_nil] at hn
    simp only [List.cons_append, List.append_assoc, List.nil_append]
    rw [Reader.serverChannel, bind_apply_ok (expect_ofTokens hword),
      bind_apply_ok (expect_ofTokens hname), bind_apply_ok (expect_ofTokens ho),
      bind_apply_ok (expect_ofTokens hhandler), bind_apply_ok (expect_ofTokens h₁),
      bind_apply_ok (hdescription.read (by omega) (by rw [nextKind_cons, h₂]; rfl)),
      bind_apply_ok (expect_ofTokens h₂),
      bind_apply_ok (hhost.read (by omega) (by rw [nextKind_cons, h₃]; rfl)),
      bind_apply_ok (expect_ofTokens h₃),
      bind_apply_ok (hport.read (by omega) (by rw [nextKind_cons, hc]; rfl)),
      bind_apply_ok (expect_ofTokens hc)]
    rfl

/-- A client channel is read back. -/
theorem Client.read {c : ClientChannel} (h : Client ts c) (hn : 8 * ts.length ≤ n) :
    Reader.clientChannel n (ofTokens (ts ++ rest)) = .ok (c, ofTokens rest) := by
  cases h with
  | @intro word name opening us host comma vs port closing hword hname ho hhost hcomma hport hc =>
    simp only [List.length_append, List.length_cons, List.length_nil] at hn
    simp only [List.cons_append, List.append_assoc, List.nil_append]
    rw [Reader.clientChannel, bind_apply_ok (expect_ofTokens hword),
      bind_apply_ok (expect_ofTokens hname), bind_apply_ok (expect_ofTokens ho),
      bind_apply_ok (hhost.read (by omega) (by rw [nextKind_cons, hcomma]; rfl)),
      bind_apply_ok (expect_ofTokens hcomma),
      bind_apply_ok (hport.read (by omega) (by rw [nextKind_cons, hc]; rfl)),
      bind_apply_ok (expect_ofTokens hc)]
    rfl

/-- The update of a loop is read back as the assignment it is. -/
theorem update_complete {a : Assignment} (h : Assign ts a) (hn : 8 * ts.length ≤ n)
    (hrest : endsExpression (nextKind rest)) :
    Reader.update n (ofTokens (ts ++ rest)) = .ok (a, ofTokens rest) := by
  rw [Reader.update, bind_apply_ok (peek_eq_ok.mpr ⟨rfl, rfl⟩), bind_apply_ok (h.read hn hrest)]
  rfl

/-! ## Statements -/

/-- A token of the kind can start a statement. -/
def startsStatement : Token.Kind → Bool
  | .func | .ifBranch | .whileLoop | .forLoop | .seq | .par | .serverChannel | .clientChannel
  | .leftBrace | .returnWord | .breakWord | .continueWord | .identifier => true
  | _ => false

/-- A token of the kind does not go on with a statement. -/
def endsStatement (kind : Token.Kind) : Bool :=
  endsExpression kind && kind != .elseBranch

/-- A token of the kind ends a list of statements. -/
def closesStatements (kind : Token.Kind) : Bool :=
  kind == .rightBrace || kind == .eof

/-- A statement may end where another one starts. -/
theorem endsStatement_of_starts (h : startsStatement kind) : endsStatement kind := by
  cases kind <;> first | rfl | cases h

/-- A statement may end where a block or the source does. -/
theorem endsStatement_of_closes (h : closesStatements kind) : endsStatement kind := by
  cases kind <;> first | rfl | cases h

/-- An assignment starts with a name. -/
theorem Assign.starts {a : Assignment} (h : Assign ts a) : nextKind (ts ++ rest) = .identifier := by
  cases h with
  | intro ht => exact ht

/-- A statement without a block starts with a word of its own or with a name. -/
theorem Simple.starts {st : Stmt} (h : Simple ts st) :
    nextKind (ts ++ rest) ∈ [.returnWord, .breakWord, .continueWord, .identifier] := by
  cases h with
  | assign h => simp [h.starts]
  | _ => simp [*]

/-- A block starts with a brace. -/
theorem Braces.starts {b : Block Stmt} (h : Braces ts b) : nextKind (ts ++ rest) = .leftBrace := by
  cases h with
  | intro ho => exact ho

/-- A server channel starts with its own word. -/
theorem Server.starts {c : ServerChannel} (h : Server ts c) :
    nextKind (ts ++ rest) = .serverChannel := by
  cases h with
  | intro hword => exact hword

/-- A client channel starts with its own word. -/
theorem Client.starts {c : ClientChannel} (h : Client ts c) :
    nextKind (ts ++ rest) = .clientChannel := by
  cases h with
  | intro hword => exact hword

/-- So a first token tells that a statement starts. -/
theorem Statement.starts {st : Stmt} (h : Statement ts st) :
    startsStatement (nextKind (ts ++ rest)) := by
  cases h with
  | simple h =>
    have hstarts : nextKind (ts ++ rest) ∈ _ := h.starts
    generalize nextKind (ts ++ rest) = kind at hstarts ⊢
    simp only [List.mem_cons, List.not_mem_nil, or_false] at hstarts
    rcases hstarts with rfl | rfl | rfl | rfl <;> rfl
  | block h => rw [h.starts]; rfl
  | server h => rw [h.starts]; rfl
  | client h => rw [h.starts]; rfl
  | _ => simp [*, startsStatement]

/-- A statement is not empty. -/
theorem Statement.length_pos {st : Stmt} (h : Statement ts st) : 0 < ts.length := by
  cases ts with
  | nil =>
    have hstarts : startsStatement (nextKind ([] ++ [])) := h.starts
    exact absurd hstarts (by decide)
  | cons => simp

/-- What is in front of statements may end there. -/
theorem Statements.ends {ss : List Stmt} (h : Statements ts ss)
    (hrest : closesStatements (nextKind rest)) : endsStatement (nextKind (ts ++ rest)) := by
  cases h with
  | none => exact endsStatement_of_closes hrest
  | cons h _ => rw [List.append_assoc]; exact endsStatement_of_starts h.starts

/-! ### One lemma for each form

A form that has blocks in it is read if its blocks are. -/

/-- What stands there is read as the block, whatever follows. -/
def IsBlock (ts : List Token) (b : Block Stmt) : Prop :=
  ∀ {n : Nat} {rest : List Token}, 8 * ts.length ≤ n →
    Reader.block n (ofTokens (ts ++ rest)) = .ok (b, ofTokens rest)

section

variable {word name opening closing : Token} {us vs ws : List Token} {body yes : Block Stmt}

/-- A statement without a block. Its first token starts none of the other forms. -/
theorem statement_simple {st : Stmt} (h : Simple ts st) (hn : 8 * ts.length ≤ n)
    (hends : endsStatement (nextKind rest)) :
    Reader.statement (n + 1) (ofTokens (ts ++ rest)) = .ok (st, ofTokens rest) := by
  rw [endsStatement, Bool.and_eq_true] at hends
  have hread : Reader.simple n (ofTokens (ts ++ rest)) = .ok (st, ofTokens rest) :=
    h.read hn hends.1
  have hstarts : nextKind (ts ++ rest) ∈ _ := h.starts
  rw [Reader.statement, bind_apply_ok (peek_eq_ok.mpr ⟨rfl, rfl⟩)]
  rw [nextKind] at hstarts
  generalize (ofTokens (ts ++ rest)).lookahead.kind = kind at hstarts ⊢
  simp only [List.mem_cons, List.not_mem_nil, or_false] at hstarts
  rcases hstarts with rfl | rfl | rfl | rfl <;> exact hread

/-- A function. Without parameters the closing parenthesis comes next. -/
theorem statement_function {arrow : Token} {ps : List Param} {type : TypeExpr} (hword : word.kind = .func)
    (hname : name.kind = .identifier) (ho : opening.kind = .leftParen) (hps : ParameterList us ps)
    (hc : closing.kind = .rightParen) (harrow : arrow.kind = .arrow) (htype : Annotation vs type)
    (hbody : IsBlock ws body)
    (hn : 8 * (word :: name :: opening :: (us ++ closing :: arrow :: (vs ++ ws))).length ≤ n) :
    Reader.statement (n + 1)
        (ofTokens (word :: name :: opening :: (us ++ closing :: arrow :: (vs ++ ws)) ++ rest)) =
      .ok (.function ⟨word.line, name.lexeme, ps, type, body⟩, ofTokens rest) := by
  simp only [List.length_append, List.length_cons] at hn
  simp only [List.cons_append, List.append_assoc]
  rw [Reader.statement, bind_apply_ok (peek_eq_ok.mpr ⟨rfl, rfl⟩), lookahead_ofTokens_cons, hword]
  dsimp only
  rw [bind_apply_ok (advance_ofTokens _ _), bind_apply_ok (expect_ofTokens hname),
    bind_apply_ok (expect_ofTokens ho)]
  have hblock : Reader.block n (ofTokens (ws ++ rest)) = .ok (body, ofTokens rest) :=
    hbody (by omega)
  cases hps with
  | none =>
    rw [List.nil_append, bind_apply_ok (check_eq_true hc), if_pos rfl,
      bind_apply_ok (pure_eq_ok.mpr ⟨rfl, rfl⟩), bind_apply_ok (expect_ofTokens hc),
      bind_apply_ok (expect_ofTokens harrow), bind_apply_ok (htype.read (by omega)),
      bind_apply_ok hblock]
    rfl
  | some h =>
    rw [bind_apply_ok (check_eq_false (by rw [h.starts]; decide))]
    simp only [Bool.false_eq_true, if_false]
    rw [bind_apply_ok (h.read (by omega) (by rw [nextKind_cons, hc])),
      bind_apply_ok (expect_ofTokens hc),
      bind_apply_ok (expect_ofTokens harrow), bind_apply_ok (htype.read (by omega)),
      bind_apply_ok hblock]
    rfl

/-- A branch without another block. What follows must not be the word `else`. -/
theorem statement_branch (hword : word.kind = .ifBranch) (ho : opening.kind = .leftParen)
    (h : Expression ts e) (hc : closing.kind = .rightParen) (hyes : IsBlock us yes)
    (hn : 8 * (word :: opening :: (ts ++ closing :: us)).length ≤ n)
    (hends : endsStatement (nextKind rest)) :
    Reader.statement (n + 1) (ofTokens (word :: opening :: (ts ++ closing :: us) ++ rest)) =
      .ok (.branch word.line e yes none, ofTokens rest) := by
  simp only [List.length_append, List.length_cons] at hn
  simp only [endsStatement, Bool.and_eq_true, bne_iff_ne] at hends
  simp only [List.cons_append, List.append_assoc]
  rw [Reader.statement, bind_apply_ok (peek_eq_ok.mpr ⟨rfl, rfl⟩), lookahead_ofTokens_cons, hword]
  dsimp only
  rw [bind_apply_ok (advance_ofTokens _ _), bind_apply_ok (condition_complete ho h hc (by omega)),
    bind_apply_ok (hyes (by omega)), bind_apply_ok (accept_eq_false hends.2)]
  rfl

/-- A branch with another block. -/
theorem statement_branchElse {other : Token} {no : Block Stmt} (hword : word.kind = .ifBranch)
    (ho : opening.kind = .leftParen) (h : Expression ts e) (hc : closing.kind = .rightParen)
    (hyes : IsBlock us yes) (hother : other.kind = .elseBranch) (hno : IsBlock vs no)
    (hn : 8 * (word :: opening :: (ts ++ closing :: (us ++ other :: vs))).length ≤ n) :
    Reader.statement (n + 1)
        (ofTokens (word :: opening :: (ts ++ closing :: (us ++ other :: vs)) ++ rest)) =
      .ok (.branch word.line e yes (some no), ofTokens rest) := by
  simp only [List.length_append, List.length_cons] at hn
  simp only [List.cons_append, List.append_assoc]
  rw [Reader.statement, bind_apply_ok (peek_eq_ok.mpr ⟨rfl, rfl⟩), lookahead_ofTokens_cons, hword]
  dsimp only
  rw [bind_apply_ok (advance_ofTokens _ _), bind_apply_ok (condition_complete ho h hc (by omega)),
    bind_apply_ok (hyes (by omega)), bind_apply_ok (accept_ofTokens hother), if_pos rfl,
    bind_apply_ok (hno (by omega))]
  rfl

/-- A `while` loop. -/
theorem statement_while (hword : word.kind = .whileLoop) (ho : opening.kind = .leftParen)
    (h : Expression ts e) (hc : closing.kind = .rightParen) (hbody : IsBlock us body)
    (hn : 8 * (word :: opening :: (ts ++ closing :: us)).length ≤ n) :
    Reader.statement (n + 1) (ofTokens (word :: opening :: (ts ++ closing :: us) ++ rest)) =
      .ok (.while word.line e body, ofTokens rest) := by
  simp only [List.length_append, List.length_cons] at hn
  simp only [List.cons_append, List.append_assoc]
  rw [Reader.statement, bind_apply_ok (peek_eq_ok.mpr ⟨rfl, rfl⟩), lookahead_ofTokens_cons, hword]
  dsimp only
  rw [bind_apply_ok (advance_ofTokens _ _), bind_apply_ok (condition_complete ho h hc (by omega)),
    bind_apply_ok (hbody (by omega))]
  rfl

/-- A `for` loop. Each of its clauses ends at a mark that goes on with no expression. -/
theorem statement_for {semi₁ semi₂ : Token} {init : Stmt} {a : Assignment} (hword : word.kind = .forLoop)
    (ho : opening.kind = .leftParen) (hinit : Simple us init) (h₁ : semi₁.kind = .semicolon)
    (h : Expression ts e) (h₂ : semi₂.kind = .semicolon) (hupdate : Assign vs a)
    (hc : closing.kind = .rightParen) (hbody : IsBlock ws body)
    (hn : 8 * (word :: opening ::
      (us ++ semi₁ :: (ts ++ semi₂ :: (vs ++ closing :: ws)))).length ≤ n) :
    Reader.statement (n + 1)
        (ofTokens (word :: opening :: (us ++ semi₁ :: (ts ++ semi₂ :: (vs ++ closing :: ws))) ++ rest)) =
      .ok (.for word.line init e a body, ofTokens rest) := by
  simp only [List.length_append, List.length_cons] at hn
  simp only [List.cons_append, List.append_assoc]
  rw [Reader.statement, bind_apply_ok (peek_eq_ok.mpr ⟨rfl, rfl⟩), lookahead_ofTokens_cons, hword]
  dsimp only
  rw [bind_apply_ok (advance_ofTokens _ _), bind_apply_ok (expect_ofTokens ho),
    bind_apply_ok (hinit.read (by omega) (by rw [nextKind_cons, h₁]; rfl)),
    bind_apply_ok (expect_ofTokens h₁),
    bind_apply_ok (h.read (by omega) (by rw [nextKind_cons, h₂]; rfl)),
    bind_apply_ok (expect_ofTokens h₂),
    bind_apply_ok (update_complete hupdate (by omega) (by rw [nextKind_cons, hc]; rfl)),
    bind_apply_ok (expect_ofTokens hc), bind_apply_ok (hbody (by omega))]
  rfl

/-- A block behind the word `seq`. -/
theorem statement_seq (hword : word.kind = .seq) (hbody : IsBlock ts body) (hn : 8 * ts.length ≤ n) :
    Reader.statement (n + 1) (ofTokens (word :: ts ++ rest)) = .ok (.seq body, ofTokens rest) := by
  rw [List.cons_append, Reader.statement, bind_apply_ok (peek_eq_ok.mpr ⟨rfl, rfl⟩),
    lookahead_ofTokens_cons, hword]
  dsimp only
  rw [bind_apply_ok (advance_ofTokens _ _), bind_apply_ok (hbody hn)]
  rfl

/-- A block behind the word `par`. -/
theorem statement_par (hword : word.kind = .par) (hbody : IsBlock ts body) (hn : 8 * ts.length ≤ n) :
    Reader.statement (n + 1) (ofTokens (word :: ts ++ rest)) = .ok (.par body, ofTokens rest) := by
  rw [List.cons_append, Reader.statement, bind_apply_ok (peek_eq_ok.mpr ⟨rfl, rfl⟩),
    lookahead_ofTokens_cons, hword]
  dsimp only
  rw [bind_apply_ok (advance_ofTokens _ _), bind_apply_ok (hbody hn)]
  rfl

/-- A block of its own. -/
theorem statement_block (hstarts : nextKind (ts ++ rest) = .leftBrace) (hbody : IsBlock ts body)
    (hn : 8 * ts.length ≤ n) :
    Reader.statement (n + 1) (ofTokens (ts ++ rest)) = .ok (.block body, ofTokens rest) := by
  rw [nextKind] at hstarts
  rw [Reader.statement, bind_apply_ok (peek_eq_ok.mpr ⟨rfl, rfl⟩), hstarts]
  dsimp only
  rw [bind_apply_ok (hbody hn)]
  rfl

/-- A server channel as a statement. -/
theorem statement_server {c : ServerChannel} (h : Server ts c) (hn : 8 * ts.length ≤ n) :
    Reader.statement (n + 1) (ofTokens (ts ++ rest)) = .ok (.server c, ofTokens rest) := by
  have hstarts : (ofTokens (ts ++ rest)).lookahead.kind = .serverChannel := h.starts
  rw [Reader.statement, bind_apply_ok (peek_eq_ok.mpr ⟨rfl, rfl⟩), hstarts]
  dsimp only
  rw [bind_apply_ok (h.read hn)]
  rfl

/-- A client channel as a statement. -/
theorem statement_client {c : ClientChannel} (h : Client ts c) (hn : 8 * ts.length ≤ n) :
    Reader.statement (n + 1) (ofTokens (ts ++ rest)) = .ok (.client c, ofTokens rest) := by
  have hstarts : (ofTokens (ts ++ rest)).lookahead.kind = .clientChannel := h.starts
  rw [Reader.statement, bind_apply_ok (peek_eq_ok.mpr ⟨rfl, rfl⟩), hstarts]
  dsimp only
  rw [bind_apply_ok (h.read hn)]
  rfl

end

mutual

/-- What derives a statement is read as this statement. -/
theorem Statement.read : ∀ {ts st}, Statement ts st → ∀ {n rest}, 8 * ts.length + 1 ≤ n →
    endsStatement (nextKind rest) →
    Reader.statement n (ofTokens (ts ++ rest)) = .ok (st, ofTokens rest)
  | _, _, .simple h, n + 1, _, hn, hends => statement_simple h (by omega) hends
  | _, _, .function hword hname ho hps hc harrow htype hbody, n + 1, _, hn, _ =>
    statement_function hword hname ho hps hc harrow htype hbody.read (by omega)
  | _, _, .branch hword ho h hc hyes, n + 1, _, hn, hends =>
    statement_branch hword ho h hc hyes.read (by omega) hends
  | _, _, .branchElse hword ho h hc hyes hother hno, n + 1, _, hn, _ =>
    statement_branchElse hword ho h hc hyes.read hother hno.read (by omega)
  | _, _, .while hword ho h hc hbody, n + 1, _, hn, _ =>
    statement_while hword ho h hc hbody.read (by omega)
  | _, _, .for hword ho hinit h₁ h h₂ hupdate hc hbody, n + 1, _, hn, _ =>
    statement_for hword ho hinit h₁ h h₂ hupdate hc hbody.read (by omega)
  | _, _, .seq hword hbody, n + 1, _, hn, _ => by
    rw [List.length_cons] at hn
    exact statement_seq hword hbody.read (by omega)
  | _, _, .par hword hbody, n + 1, _, hn, _ => by
    rw [List.length_cons] at hn
    exact statement_par hword hbody.read (by omega)
  | _, _, .block hbody, n + 1, _, hn, _ => statement_block hbody.starts hbody.read (by omega)
  | _, _, .server h, n + 1, _, hn, _ => statement_server h (by omega)
  | _, _, .client h, n + 1, _, hn, _ => statement_client h (by omega)

/-- What derives statements is read as these statements, up to a token that closes them. -/
theorem Statements.read : ∀ {ts ss}, Statements ts ss → ∀ {n rest}, 8 * ts.length + 2 ≤ n →
    closesStatements (nextKind rest) →
    Reader.statements n (ofTokens (ts ++ rest)) = .ok (ss, ofTokens rest)
  | _, _, .none, n + 1, rest, hn, hcloses => by
    rw [Reader.statements, bind_apply_ok (peek_eq_ok.mpr ⟨rfl, rfl⟩), if_pos]
    · rfl
    · simpa [closesStatements, nextKind] using hcloses
  | _, _, @Statements.cons ts us st ss h hrest, n + 1, rest, hn, hcloses => by
    have hpos := h.length_pos
    have hstarts : startsStatement (nextKind (ts ++ (us ++ rest))) := h.starts
    simp only [List.length_append] at hn
    rw [List.append_assoc, Reader.statements, bind_apply_ok (peek_eq_ok.mpr ⟨rfl, rfl⟩), if_neg]
    · rw [bind_apply_ok (h.read (by omega) (hrest.ends hcloses)),
        bind_apply_ok (hrest.read (by omega) hcloses)]
      rfl
    · rw [nextKind] at hstarts
      generalize (ofTokens (ts ++ (us ++ rest))).lookahead.kind = kind at hstarts ⊢
      rintro (rfl | rfl) <;> cases hstarts

/-- Braces are read as a block, whatever follows. -/
theorem Braces.read : ∀ {ts b}, Braces ts b → ∀ {n rest}, 8 * ts.length ≤ n →
    Reader.block n (ofTokens (ts ++ rest)) = .ok (b, ofTokens rest)
  | _, _, @Braces.intro opening ts closing ss ho h hc, n + 1, rest, hn => by
    simp only [List.length_append, List.length_cons, List.length_nil] at hn
    rw [List.cons_append, List.append_assoc, List.singleton_append, Reader.block,
      bind_apply_ok (expect_ofTokens ho),
      bind_apply_ok (h.read (by omega) (by rw [nextKind_cons, hc]; rfl)),
      bind_apply_ok (expect_ofTokens hc)]
    rfl

end

end Grammar

end ParLang
