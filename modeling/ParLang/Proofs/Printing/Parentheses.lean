import ParLang.Proofs.Grammar.Exact
import ParLang.Proofs.Printing.RoundTrip
import ParLang.Proofs.Program.Relined
import ParLang.Proofs.Token.Rendering

/-!
# Needed parentheses

`Expr.openings` counts the opening parentheses that an expression cannot do without: one for each call,
and one for each operand that binds less tightly than its place asks for. Tokens that derive the
expression have at least as many (`Level.openings_le`), whatever other parentheses there are, and its text
has just as many (`Level.counts`). So of all ways to write an expression its text has the fewest opening
parentheses (`fewest_openings`).
-/

namespace ParLang

/-! ## Counting -/

mutual

/-- The opening parentheses that the expression needs. -/
def Expr.openings : Expr → Nat
  | .number _ _ | .text _ _ | .truth _ _ | .ident _ _ => 0
  | .binary _ op l r =>
    (l.needsParens op.precedence false).toNat + l.openings +
      ((r.needsParens op.precedence true).toNat + r.openings)
  | .unary _ _ e => e.topOp?.isSome.toNat + e.openings
  | .call _ _ args => 1 + openingsIn args
  | .index _ base position => base.openings + position.openings
  | .array _ items => openingsIn items

/-- The opening parentheses that the expressions need. -/
def openingsIn : List Expr → Nat
  | [] => 0
  | e :: es => e.openings + openingsIn es

end

mutual

/-- Lines do not matter for the parentheses that an expression needs. -/
theorem Expr.openings_unlined : ∀ e : Expr, e.unlined.openings = e.openings
  | .number _ _ | .text _ _ | .truth _ _ | .ident _ _ => rfl
  | .binary _ _ l r => by
    simp only [Expr.unlined, Expr.openings, Expr.needsParens_unlined, l.openings_unlined,
      r.openings_unlined]
  | .unary _ _ e => by
    simp only [Expr.unlined, Expr.openings, Expr.topOp?_unlined, e.openings_unlined]
  | .call _ _ args => by simp only [Expr.unlined, Expr.openings, openingsIn_unlined args]
  | .index _ base position => by
    simp only [Expr.unlined, Expr.openings, base.openings_unlined, position.openings_unlined]
  | .array _ items => by simp only [Expr.unlined, Expr.openings, openingsIn_unlined items]

/-- Nor do they for those that the items of a list need. -/
theorem openingsIn_unlined : ∀ es : List Expr, openingsIn (unlinedExprs es) = openingsIn es
  | [] => rfl
  | e :: es => by
    simp only [unlinedExprs, openingsIn, e.openings_unlined, openingsIn_unlined es]

end

namespace Printing

open Cursor Grammar

variable {D E : List Token → Prop} {ts us : List Token} {t : Token} {rest : List Char}
  {e l r : Expr} {es : List Expr} {line : Nat} {name : String} {a b k : Nat}

/-- The number of opening parentheses among the tokens. -/
def openings (ts : List Token) : Nat :=
  ts.countP (·.kind == .leftParen)

/-- No tokens hold no parenthesis. -/
@[simp] theorem openings_nil : openings [] = 0 := rfl

/-- The parentheses of two lists add up. -/
@[simp] theorem openings_append : openings (ts ++ us) = openings ts + openings us :=
  List.countP_append

/-- A token counts if it is an opening parenthesis. -/
@[simp] theorem openings_cons :
    openings (t :: ts) = (if t.kind = .leftParen then 1 else 0) + openings ts := by
  rw [openings, List.countP_cons, Nat.add_comm]
  simp only [beq_iff_eq, openings]

/-! ## What no derivation can do without -/

/-- A right operand needs parentheses where a left one of the next tighter level does. -/
theorem needsParens_right (k : Nat) (e : Expr) : e.needsParens k true = e.needsParens (k + 1) false := by
  rw [Expr.needsParens, Expr.needsParens]
  cases e.topOp? with
  | none => rfl
  | some op =>
    simp only [Bool.true_and, Bool.false_and, Bool.or_false]
    grind

/-- Behind an operator in front, every operator between operands needs parentheses. -/
theorem needsParens_seven (e : Expr) : e.needsParens 7 false = e.topOp?.isSome := by
  rw [Expr.needsParens]
  cases e.topOp? with
  | none => rfl
  | some op => simp [precedence_lt_seven op]

/-- An operator that is loose enough for a level is so for every looser one. -/
theorem needsParens_mono {j : Nat} (hk : k ≤ j) (e : Expr) :
    (e.needsParens k false).toNat ≤ (e.needsParens j false).toNat := by
  rw [Expr.needsParens, Expr.needsParens]
  cases e.topOp? with
  | none => exact Nat.le_refl _
  | some op =>
    simp only [Bool.false_and, Bool.or_false]
    by_cases h : op.precedence < k
    · have hj : op.precedence < j := by omega
      simp [h, hj]
    · simp [h]

/-- Only an operator between operands needs parentheses. -/
theorem needsParens_eq_false {isRight : Bool} (h : e.topOp? = none) : e.needsParens k isRight = false := by
  rw [Expr.needsParens, h]

mutual

/-- Tokens of a level have the parentheses that the expression needs, and a pair around it if its operator
is looser than the level. -/
theorem Level.openings_le : ∀ {k ts e}, Level k ts e →
    (e.needsParens k false).toNat + e.openings ≤ openings ts
  | k, _, e, .tighter h => by
    have hle := Level.openings_le h
    have hmono := needsParens_mono (Nat.le_add_right k 1) e
    omega
  | k, _, _, @Level.binary _ us vs sign op l r hl hop hr => by
    have hleft := Level.openings_le hl
    have hright := Level.openings_le hr
    obtain ⟨-, rfl⟩ := operator_iff.mp hop
    rw [← needsParens_right] at hright
    have htop : (Expr.binary sign.line op l r).needsParens op.precedence false = false := by
      simp [Expr.needsParens, Expr.topOp?]
    rw [htop, Expr.openings, openings_append, openings_cons]
    simp only [Bool.toNat_false]
    omega
  | _, _, _, .unary h => Unary.openings_le h

/-- An operand with the operators in front of it has the parentheses that it needs, and a pair around it if
it is an operation. -/
theorem Unary.openings_le : ∀ {ts e}, Unary ts e →
    (e.needsParens 7 false).toNat + e.openings ≤ openings ts
  | _, _, .primary h => Primary.openings_le h
  | _, _, @Unary.neg sign ts e _ h | _, _, @Unary.not sign ts e _ h => by
    have hle := Unary.openings_le h
    rw [needsParens_seven] at hle
    rw [openings_cons, Expr.openings, needsParens_eq_false rfl, Bool.toNat_false]
    omega

/-- The same for an operand, one case for each of its forms. Only in that of parentheses there may be more
than needed. -/
theorem Primary.openings_le : ∀ {ts e}, Primary ts e →
    (e.needsParens 7 false).toNat + e.openings ≤ openings ts
  | _, _, .number _ _ | _, _, .fraction _ _ _ _ | _, _, .text _ | _, _, .true _ | _, _, .false _
  | _, _, .name _ => Nat.zero_le _
  | _, _, .call ht ho h hc => by
    have hle := Listed.openings_le h
    rw [needsParens_eq_false rfl, Bool.toNat_false, Expr.openings]
    simp only [openings_cons, openings_append, ho, if_true]
    omega
  | _, _, .index _ _ h _ => by
    have hle := Level.openings_le h
    rw [needsParens_eq_false rfl, Bool.toNat_false, Expr.openings, Expr.openings]
    simp only [openings_cons, openings_append]
    omega
  | _, _, .array _ h _ => by
    have hle := Listed.openings_le h
    rw [needsParens_eq_false rfl, Bool.toNat_false, Expr.openings]
    simp only [openings_cons, openings_append]
    omega
  | _, _, @Primary.parens _ _ _ e ho h _ => by
    -- The pair is there, needed or not.
    have hle := Level.openings_le h
    have hpair := Bool.toNat_le (e.needsParens 7 false)
    simp only [openings_cons, openings_append, ho, if_true]
    omega

/-- Arguments have at least the parentheses that they need. -/
theorem Listed.openings_le : ∀ {ts es}, Listed ts es → openingsIn es ≤ openings ts
  | _, _, .none => Nat.le_refl 0
  | _, _, .some h => Items.openings_le h

/-- Items have at least the parentheses that they need. -/
theorem Items.openings_le : ∀ {ts es}, Items ts es → openingsIn es ≤ openings ts
  | _, _, .one h => by
    have hle := Level.openings_le h
    simp only [openingsIn]
    omega
  | _, _, .cons h _ hrest => by
    have hle := Level.openings_le h
    have htail := Items.openings_le hrest
    simp only [openings_cons, openings_append, openingsIn]
    omega

end

/-! ## What is written -/

/-- The number of opening parentheses among the tokens is `a`. -/
def Counted (a : Nat) (ts : List Token) : Prop :=
  openings ts = a

/-- No tokens hold no parenthesis. -/
theorem counted_nil : Counted 0 [] := rfl

/-- The counts of two groups of tokens add up. -/
theorem Both.counted (h : Both D E ts) (hD : ∀ {ts}, D ts → Counted a ts)
    (hE : ∀ {ts}, E ts → Counted b ts) : Counted (a + b) ts := by
  obtain ⟨us, vs, rfl, hus, hvs⟩ := h
  rw [Counted, openings_append, hD hus, hE hvs]

/-- A single token counts by its kind. -/
theorem Sole.counted {kind : Token.Kind} (h : Sole kind ts) :
    Counted (if kind = .leftParen then 1 else 0) ts := by
  obtain ⟨t, rfl, rfl⟩ := h
  exact openings_cons

/-- So does one with its text. -/
theorem One.counted {kind : Token.Kind} {text : String} (h : One kind text ts) :
    Counted (if kind = .leftParen then 1 else 0) ts := by
  obtain ⟨t, rfl, rfl, -⟩ := h
  exact openings_cons

/-- The text of the expression has the opening parentheses that the expression needs, and no others. -/
structure Counts (e : Expr) : Prop where
  writes : ∀ {rest}, Apart rest → Writes (Counted e.openings) e.print.toList rest

namespace Counts

/-- An operand has the parentheses that it needs, and one more if it stands in a pair. -/
theorem operand {needed : Bool} (h : Counts e) (hrest : Apart rest) :
    Writes (Counted (needed.toNat + e.openings)) (parenthesise needed e.print).toList rest := by
  cases needed with
  | true =>
    refine (writes_parens (h.writes apart_rightParen)).imp fun hboth => ?_
    have hcounted := hboth.counted Sole.counted fun hboth => hboth.counted id Sole.counted
    exact hcounted
  | false =>
    rw [Bool.toNat_false, Nat.zero_add]
    exact h.writes hrest

/-- A single token that is no parenthesis. -/
theorem of_one {kind : Token.Kind} {text : String} (hkind : kind ≠ .leftParen) (he : e.openings = 0)
    (h : ∀ {rest}, Apart rest → Writes (One kind text) e.print.toList rest) : Counts e where
  writes hrest := (h hrest).imp fun hone => by
    have hcounted := hone.counted
    rwa [if_neg hkind, ← he] at hcounted

/-- A name is written without parentheses. -/
theorem ident (h : IsName name) : Counts (.ident line name) :=
  .of_one (by decide : Token.Kind.identifier ≠ .leftParen) rfl h.writes

/-- So is a text, whatever characters are in it. -/
theorem text {s : String} (h : '"' ∉ s.toList) : Counts (.text line s) :=
  .of_one (by decide : Token.Kind.string ≠ .leftParen) rfl fun _ => writes_text h

/-- So is a truth value. -/
theorem truth {b : Bool} : Counts (.truth line b) where
  writes hrest := (writes_truth hrest).imp fun hts => by
    have hkind : truthKindOf b ≠ .leftParen := by cases b <;> decide
    have hcounted := hts.counted
    rwa [if_neg hkind] at hcounted

/-- So is a literal. -/
theorem number {x : Float} (h : PrintsLiteral x) : Counts (.number line x) where
  writes hrest := (h.writes hrest).imp fun hts => by
    rcases hts with ⟨t, rfl, ht, -⟩ | ⟨t, p, u, rfl, ht, hp, hu, -⟩
    · simp [Counted, Expr.openings, ht]
    · simp [Counted, Expr.openings, ht, hp, hu]

/-- An operation is written with the parentheses of its operands, each in a pair where its place needs one.
-/
theorem binary {op : BinaryOp} (hl : Counts l) (hr : Counts r) : Counts (.binary line op l r) where
  writes hrest := (writes_binary (hl.operand apart_space) (hr.operand hrest)).imp fun hboth => by
    have hcounted := hboth.counted id fun hboth => hboth.counted Sole.counted id
    have hkind : kindOf op ≠ .leftParen := by cases op <;> decide
    rwa [if_neg hkind, Nat.zero_add] at hcounted

/-- A signed operand stands in a pair if it is an operation. -/
theorem unary {op : UnaryOp} (hprints : Prints e) (h : Counts e) : Counts (.unary line op e) where
  writes hrest := (hprints.writes_unary (h.operand hrest)).imp fun hboth => by
    have hcounted := hboth.counted Sole.counted id
    have hkind : unaryKindOf op ≠ .leftParen := by cases op <;> decide
    rwa [if_neg hkind, Nat.zero_add] at hcounted

/-- Items are written with their own parentheses and no others. -/
theorem printAll (hes : ∀ e ∈ es, Counts e) (hrest : Apart rest) :
    Writes (Counted (openingsIn es)) (Expr.printAll es).toList rest := by
  induction es with
  | nil =>
    refine Writes.nil.imp ?_
    rintro _ rfl
    exact counted_nil
  | cons e es ih =>
    have he := hes e List.mem_cons_self
    cases es with
    | nil => exact he.writes hrest
    | cons d es =>
      have htail := ih fun e' he' => hes e' (List.mem_cons_of_mem _ he')
      refine (writes_cons he.writes htail).imp fun hboth => ?_
      have hcounted := hboth.counted id fun hboth => hboth.counted Sole.counted id
      rwa [if_neg (by decide), Nat.zero_add] at hcounted

/-- A call adds the pair around its arguments. -/
theorem call (hname : IsName name) (hes : ∀ e ∈ es, Counts e) : Counts (.call line name es) where
  writes _ := (hname.writes_call (printAll hes apart_rightParen)).imp fun hboth => by
    have hcounted := hboth.counted One.counted fun hboth =>
      hboth.counted Sole.counted fun hboth => hboth.counted id Sole.counted
    simpa only [Expr.openings, reduceCtorEq, if_false, if_true, Nat.zero_add, Nat.add_zero] using hcounted

/-- An index adds none: it stands in brackets. -/
theorem index {baseLine : Nat} (hname : IsName name) (he : Counts e) :
    Counts (.index line (.ident baseLine name) e) where
  writes _ := (hname.writes_index (he.writes apart_rightBracket)).imp fun hboth => by
    have hcounted := hboth.counted One.counted fun hboth =>
      hboth.counted Sole.counted fun hboth => hboth.counted id Sole.counted
    simpa only [Expr.openings, reduceCtorEq, if_false, Nat.zero_add, Nat.add_zero] using hcounted

/-- Nor does an array. -/
theorem array (hes : ∀ e ∈ es, Counts e) : Counts (.array line es) where
  writes _ := (writes_array (printAll hes apart_rightBracket)).imp fun hboth => by
    have hcounted := hboth.counted Sole.counted fun hboth => hboth.counted id Sole.counted
    simpa only [Expr.openings, reduceCtorEq, if_false, Nat.zero_add, Nat.add_zero] using hcounted

end Counts

/-- A number that was read is written without parentheses. -/
theorem counts_of_read {text : String} {x : Float} (line : Nat) (h : IsDecimal text.toList)
    (hread : Number.readDecimal? text = some x) : Counts (Expr.number line x).asWritten := by
  rw [Expr.asWritten]
  split
  · next hx => exact .number (printsLiteral_of_read h hread hx)
  · next hx =>
    rw [Number.eq_infinity_of_read h hread hx]
    exact .ident isName_infinity

mutual

/-- What is derived from tokens of a source is written with just the parentheses it needs, at every level.
-/
theorem Level.counts : ∀ {k ts e}, Level k ts e → AllFormed ts → Counts e.asWritten
  | _, _, _, .tighter h, hts => Level.counts h hts
  | _, _, _, .binary hl _ hr, hts => by
    simp only [List.forall_mem_append, List.forall_mem_cons] at hts
    exact .binary (Level.counts hl hts.1) (Level.counts hr hts.2.2)
  | _, _, _, .unary h, hts => Unary.counts h hts

/-- The same for an operand with the operators in front of it. -/
theorem Unary.counts : ∀ {ts e}, Unary ts e → AllFormed ts → Counts e.asWritten
  | _, _, .primary h, hts => Primary.counts h hts
  | _, _, .neg _ h, hts | _, _, .not _ h, hts =>
    have hts := (List.forall_mem_cons.mp hts).2
    Counts.unary (Unary.prints h hts) (Unary.counts h hts)

/-- The same for an operand, one case for each of its forms. -/
theorem Primary.counts : ∀ {ts e}, Primary ts e → AllFormed ts → Counts e.asWritten
  | _, _, .number ht hread, hts => by
    simp only [List.forall_mem_singleton] at hts
    exact counts_of_read _ (.inl (hts.number ht)) hread
  | _, _, .fraction ht _ hu hread, hts => by
    simp only [List.forall_mem_cons] at hts
    refine counts_of_read _ (.inr ?_) hread
    exact ⟨_, _, hts.1.number ht, hts.2.2.1.number hu, by simp⟩
  | _, _, .text ht, hts => .text ((hts _ List.mem_cons_self).string ht)
  | _, _, .true _, _ => .truth
  | _, _, .false _, _ => .truth
  | _, _, .name ht, hts => .ident (isName_of_formed (hts _ List.mem_cons_self) ht)
  | _, _, .call ht _ h _, hts => by
    simp only [List.forall_mem_append, List.forall_mem_cons] at hts
    exact .call (isName_of_formed hts.1 ht) (Listed.counts h hts.2.2.1)
  | _, _, .index ht _ h _, hts => by
    simp only [List.forall_mem_append, List.forall_mem_cons] at hts
    exact .index (isName_of_formed hts.1 ht) (Level.counts h hts.2.2.1)
  | _, _, .array _ h _, hts => by
    simp only [List.forall_mem_append, List.forall_mem_cons] at hts
    exact .array (Listed.counts h hts.2.1)
  | _, _, .parens _ h _, hts => by
    simp only [List.forall_mem_append, List.forall_mem_cons] at hts
    exact Level.counts h hts.2.1

/-- The same for the arguments of a call. -/
theorem Listed.counts : ∀ {ts es}, Listed ts es → AllFormed ts → ∀ e ∈ asWrittenExprs es, Counts e
  | _, _, .none, _ => List.forall_mem_nil _
  | _, _, .some h, hts => Items.counts h hts

/-- The same for the items of a list. -/
theorem Items.counts : ∀ {ts es}, Items ts es → AllFormed ts → ∀ e ∈ asWrittenExprs es, Counts e
  | _, _, .one h, hts => List.forall_mem_singleton.mpr (Level.counts h hts)
  | _, _, .cons h _ hrest, hts => by
    simp only [List.forall_mem_append, List.forall_mem_cons] at hts
    exact List.forall_mem_cons.mpr ⟨Level.counts h hts.1, Items.counts hrest hts.2.2⟩

end

/-! ## The fewest parentheses -/

/-- The tokens, with an end token behind them, are read as the expression, and all of them are taken. -/
def ReadWhole (ts : List Token) (e : Expr) : Prop :=
  ∃ last, last.kind = .eof ∧
    Reader.expression (stepBudget (ts.length + 1)) (TokenStream.ofTokens (ts ++ [last])) =
      .ok (e, TokenStream.ofTokens [last])

/-- To read all of the tokens as an expression is to derive it from them. -/
theorem readWhole_iff : ReadWhole ts e ↔ Expression ts e := by
  constructor
  · rintro ⟨last, hlast, hread⟩
    obtain ⟨us, ⟨R', hR, hstream⟩, h⟩ :=
      (readsAt _).expression (TokenStream.ofResults_map_ok (ts ++ [last])) hread
    obtain ⟨us', ws, heq, hus, rfl⟩ := List.map_eq_append_iff.mp hR
    obtain rfl : us' = us := List.map_inj_right (fun _ _ => Except.ok.inj) |>.mp hus
    cases ws with
    | nil =>
      -- Then the end token would have been taken, too.
      rw [List.append_nil] at heq
      exact absurd hlast (h.endless last (heq ▸ List.mem_append_right _ List.mem_cons_self))
    | cons w ws =>
      have hws : ws = [] := by
        have hrest := congrArg TokenStream.rest (Except.ok.inj hstream)
        exact List.map_eq_nil_iff.mp hrest
      subst hws
      obtain ⟨rfl, -⟩ := List.append_inj' heq rfl
      exact h
  · intro h
    refine ⟨TokenStream.endToken, rfl, h.read ?_ rfl⟩
    simp only [stepBudget]
    omega

/-- What is read of a text, where its characters scan to tokens with the property. -/
theorem Writes.tokens {text : String} (h : Writes D text.toList []) :
    ∃ us last, D us ∧ last.kind = .eof ∧ ParLang.tokens text = .ok (us ++ [last]) := by
  obtain ⟨us, c', hus, hrest, hscans⟩ := h 0 1
  rw [List.append_nil] at hscans
  obtain ⟨last, hlast, hscan⟩ := Scans.scan hscans hrest
  exact ⟨us, last, hus, hlast, by rw [ParLang.tokens, hscan, firstFault_map_ok]⟩

/-- **Of all ways to write an expression, its text has the fewest opening parentheses**, for every
expression with finite number literals that is read off tokens of some source text. -/
theorem fewest_openings {source : String} (hts : ∀ t ∈ ts, .ok t ∈ scan source) (hread : ReadWhole ts e)
    (hx : ∀ x ∈ e.literals, Number.isFinite x) :
    ∃ us last, tokens e.print = .ok (us ++ [last]) ∧ last.kind = .eof ∧
      (∃ e', ReadWhole us e' ∧ e'.unlined = e.unlined) ∧
      ∀ vs e', ReadWhole vs e' → e'.unlined = e.unlined → openings us ≤ openings vs := by
  have hformed : AllFormed ts := fun t ht => formed_of_mem_results (hts t ht)
  have hlevel := readWhole_iff.mp hread
  have hprints := Level.prints hlevel hformed
  have hcounts := Level.counts hlevel hformed
  rw [Expr.asWritten_of_finite hx] at hprints hcounts
  obtain ⟨us, last, ⟨e', he', hlines⟩, hlast, hus⟩ := (hprints.expression apart_nil).tokens
  obtain ⟨us', last', hopenings, -, hus'⟩ := (hcounts.writes apart_nil).tokens
  -- Both speak of the tokens of the one text.
  obtain ⟨rfl, -⟩ := List.append_inj' (Except.ok.inj (hus'.symm.trans hus)) rfl
  refine ⟨us', last, hus, hlast, ⟨e', readWhole_iff.mpr he', hlines⟩, fun vs d hd hdlines => ?_⟩
  have hle := Level.openings_le (readWhole_iff.mp hd)
  rw [← Expr.openings_unlined d, hdlines, Expr.openings_unlined] at hle
  rw [hopenings]
  omega

/-- Four pairs of parentheses that are not needed, and two that are. -/
def wrappedSource : String :=
  "((a) + (b * (2))) * -(d - (e))"

/-- Its tokens, without the end token. -/
def wrappedTokens : List Token :=
  ((tokens wrappedSource).toOption.getD []).dropLast

/-- A source with four pairs too many: the layout has the two that are needed. -/
theorem fewest_openings_wrappedSource : openings wrappedTokens = 6 ∧
    ∃ e us last, ReadWhole wrappedTokens e ∧ tokens e.print = .ok (us ++ [last]) ∧ openings us = 2 ∧
      ∀ vs e', ReadWhole vs e' → e'.unlined = e.unlined → 2 ≤ openings vs := by
  have hts : ∀ t ∈ wrappedTokens, .ok t ∈ scan wrappedSource := by decide +kernel
  have hread : (Reader.expression (stepBudget (wrappedTokens.length + 1))
      (TokenStream.ofTokens (wrappedTokens ++ [TokenStream.endToken]))).toOption.any (fun (e, s) =>
        s.lookahead == TokenStream.endToken && s.rest.isEmpty && e.literals.all Number.isFinite &&
          (tokens e.print).toOption.any (openings · == 2)) = true := by
    decide +kernel
  refine ⟨by decide +kernel, ?_⟩
  cases hresult : Reader.expression (stepBudget (wrappedTokens.length + 1))
      (TokenStream.ofTokens (wrappedTokens ++ [TokenStream.endToken])) with
  | error e =>
    rw [hresult] at hread
    exact absurd hread Bool.false_ne_true
  | ok result =>
    obtain ⟨e, s, rest⟩ := result
    rw [hresult] at hread
    simp only [Except.toOption, Option.any_some, Bool.and_eq_true, beq_iff_eq, List.isEmpty_iff] at hread
    obtain ⟨⟨⟨rfl, rfl⟩, hx⟩, htwo⟩ := hread
    have hwhole : ReadWhole wrappedTokens e := ⟨TokenStream.endToken, rfl, hresult⟩
    obtain ⟨us, last, hus, hlast, -, hfewest⟩ :=
      fewest_openings hts hwhole (List.all_eq_true.mp hx)
    have hopenings : openings us = 2 := by
      rw [hus] at htwo
      simpa [hlast] using htwo
    exact ⟨e, us, last, hwhole, hus, hopenings, fun vs d hd hlines => hopenings ▸ hfewest vs d hd hlines⟩

end Printing

end ParLang
