import ParLang.Proofs.Scope.Stack
import ParLang.Proofs.Typing.Tables

/-!
# The parts of what the checker accepts

An accepted statement comes apart into accepted parts. `Accepts` says so once, with one rule for each
form of statement: what the checker found for the expressions in it, the context in which it checks
each block, and the context in which it goes on behind the statement. `Target.Takes` and `AcceptsParams`
do the same for assignments and parameters. Proofs about accepted programs split a statement by these
rules and never look into the checker.
-/

namespace ParLang

/-! ## Expressions -/

/-- The checker finds a type for the expression. -/
def Expr.Typed (names : Names) (e : Expr) : Prop :=
  ∃ t, e.typeIn names = .ok t

namespace Expr.Typed

variable {names : Names} {line : Nat}

/-- A name with a type is declared. -/
theorem ident {x : String} (h : (Expr.ident line x).Typed names) :
    (names.scopes.find? x).isSome := by
  obtain ⟨t, h⟩ := h
  exact Option.isSome_iff_exists.mpr ⟨t, variableType_eq_ok.mp h⟩

/-- The operands of an operation have types. -/
theorem binary {op : BinaryOp} {left right : Expr} (h : (Expr.binary line op left right).Typed names) :
    left.Typed names ∧ right.Typed names := by
  obtain ⟨t, h⟩ := h
  simp only [Expr.typeIn, Checked.bind_eq_ok] at h
  obtain ⟨l, hl, r, hr, -⟩ := h
  exact ⟨⟨l, hl⟩, r, hr⟩

/-- So has the operand behind a sign. -/
theorem unary {op : UnaryOp} {operand : Expr} (h : (Expr.unary line op operand).Typed names) :
    operand.Typed names := by
  obtain ⟨t, h⟩ := h
  simp only [Expr.typeIn, Checked.bind_eq_ok] at h
  obtain ⟨t', h, -⟩ := h
  exact ⟨t', h⟩

/-- So have the base of an index and the index itself. -/
theorem index {base position : Expr} (h : (Expr.index line base position).Typed names) :
    base.Typed names ∧ position.Typed names := by
  obtain ⟨t, h⟩ := h
  simp only [Expr.typeIn, Checked.bind_eq_ok] at h
  obtain ⟨b, hb, p, hp, -⟩ := h
  exact ⟨⟨b, hb⟩, p, hp⟩

/-- Expressions in a list have types if the types of the list are found. -/
theorem of_typesIn {es : List Expr} {ts : List StaticType} (h : typesIn names es = .ok ts) :
    ∀ e ∈ es, e.Typed names := by
  induction es generalizing ts with
  | nil => simp
  | cons e rest ih =>
    simp only [typesIn, Checked.bind_eq_ok] at h
    obtain ⟨t, ht, ts', hrest, -⟩ := h
    exact List.forall_mem_cons.mpr ⟨⟨t, ht⟩, ih hrest⟩

/-- The items of an array have types if the type of its elements is found. -/
theorem of_elementIn {found? element? : Option StaticType} {es : List Expr}
    (h : elementIn names line found? es = .ok element?) : ∀ e ∈ es, e.Typed names := by
  induction es generalizing found? with
  | nil => simp
  | cons e rest ih =>
    simp only [elementIn, Checked.bind_eq_ok] at h
    obtain ⟨t, ht, h⟩ := h
    refine List.forall_mem_cons.mpr ⟨⟨t, ht⟩, ?_⟩
    split at h
    · exact ih h
    · split at h
      · exact ih h
      · cases h

/-- The items of an array have types if the array has one. -/
theorem array {items : List Expr} (h : (Expr.array line items).Typed names) :
    ∀ e ∈ items, e.Typed names := by
  obtain ⟨t, h⟩ := h
  simp only [Expr.typeIn, Checked.bind_eq_ok] at h
  obtain ⟨element?, h, -⟩ := h
  exact of_elementIn h

/-- What is called is built in or visible. -/
theorem call {callee : String} {args : List Expr} (h : (Expr.call line callee args).Typed names) :
    (∀ e ∈ args, e.Typed names) ∧
      (Builtin.ofName? callee = none → names.functions.contains callee) := by
  obtain ⟨t, h⟩ := h
  simp only [Expr.typeIn, Checked.bind_eq_ok] at h
  obtain ⟨ts, hts, h⟩ := h
  refine ⟨of_typesIn hts, fun hb => ?_⟩
  rw [callType, hb] at h
  dsimp only at h
  split at h
  · cases h
  · next s hs => exact NameMap.contains_iff.mpr ⟨s, hs⟩

end Expr.Typed

/-- The checker accepts the assignment. -/
inductive Assignment.Typed (names : Names) : Assignment → Prop where
  | variable {line l x value} (hx : (names.scopes.find? x).isSome) (hv : value.Typed names) :
      Assignment.Typed names ⟨line, .variable l x, value⟩
  | cell {line base position value} (hb : base.Typed names) (hp : position.Typed names)
      (hv : value.Typed names) : Assignment.Typed names ⟨line, .cell base position, value⟩

/-- The checker lets values of this type be stored in the target. -/
inductive Target.Takes (names : Names) : Target → StaticType → Prop where
  | variable {l x t} (hx : names.scopes.find? x = some t) : Target.Takes names (.variable l x) t
  | cell {base position b t} (hb : base.typeIn names = .ok b)
      (hp : position.typeIn names = .ok .number) (ht : b.element? = some t) :
      Target.Takes names (.cell base position) t

namespace Check

variable {c c' : Context} {u : Unit}

/-- The type of a target is found if the target takes values of it. -/
theorem targetType_eq_ok {line : Nat} {target : Target} {t : StaticType} :
    targetType line target c = (.ok t, c') ↔ target.Takes c.names t ∧ c' = c := by
  cases target with
  | «variable» l x =>
    rw [targetType, examine_eq_ok, variableType_eq_ok]
    exact and_congr_left fun _ => ⟨.variable, fun h => by cases h with | «variable» hx => exact hx⟩
  | cell base position =>
    simp only [targetType, bind_eq_ok, typeOf, examine_eq_ok, expectTyped_eq_ok]
    constructor
    · rintro ⟨b, _, ⟨hb, rfl⟩, _, _, ⟨hp, rfl⟩, h⟩
      cases ht : b.element? with
      | none =>
        rw [ht] at h
        exact absurd h not_reject_eq_ok
      | some t' =>
        rw [ht] at h
        obtain ⟨rfl, rfl⟩ := pure_eq_ok.mp h
        exact ⟨.cell hb hp ht, rfl⟩
    · rintro ⟨⟨⟩ | ⟨hb, hp, ht⟩, rfl⟩
      exact ⟨_, _, ⟨hb, rfl⟩, (), _, ⟨hp, rfl⟩, by rw [ht]; rfl⟩

/-- An assignment is accepted if its target takes values of the type that is found. -/
theorem assignment_eq_ok {a : Assignment} :
    Check.assignment a c = (.ok u, c') ↔
      (∃ t found, a.target.Takes c.names t ∧ a.value.typeIn c.names = .ok found ∧
        expectAssignable t found a.line = .ok ()) ∧ c' = c := by
  simp only [Check.assignment, bind_eq_ok, typeOf, examine_eq_ok, targetType_eq_ok]
  constructor
  · rintro ⟨t, _, ⟨ht, rfl⟩, found, _, ⟨hfound, rfl⟩, hok, rfl⟩
    exact ⟨⟨t, found, ht, hfound, hok⟩, rfl⟩
  · rintro ⟨⟨t, found, ht, hfound, hok⟩, rfl⟩
    exact ⟨t, _, ⟨ht, rfl⟩, found, _, ⟨hfound, rfl⟩, hok, rfl⟩

end Check

/-- The parts of an accepted assignment have types. -/
theorem Assignment.Typed.of_assignment {c c' : Context} {a : Assignment}
    (h : Check.assignment a c = (.ok (), c')) : a.Typed c.names ∧ c' = c := by
  obtain ⟨⟨t, found, htarget, hfound, -⟩, hc⟩ := Check.assignment_eq_ok.mp h
  refine ⟨?_, hc⟩
  obtain ⟨line, target, value⟩ := a
  cases htarget with
  | «variable» hx => exact .variable (by simp [hx]) ⟨found, hfound⟩
  | cell hb hp _ => exact .cell ⟨_, hb⟩ ⟨_, hp⟩ ⟨found, hfound⟩

/-! ## Parameters -/

/-- The context behind a parameter. -/
def Context.withParam (c : Context) (p : Param) : Context :=
  c.declared p.name ((StaticType.ofTypeExpr? p.type).getD .void)

/-- The context behind parameters. -/
def Context.withParams (c : Context) : List Param → Context
  | [] => c
  | p :: ps => (c.withParam p).withParams ps

/-- Parameters leave the loops and the function around them. -/
theorem Context.restores_withParams (c : Context) (ps : List Param) :
    (c.withParams ps).function? = c.function? ∧ (c.withParams ps).loopDepth = c.loopDepth := by
  induction ps generalizing c with
  | nil => exact ⟨rfl, rfl⟩
  | cons p ps ih => exact ih (c.withParam p)

/-- The defaults of parameters have types, each in the context of its parameter. -/
def DefaultsTyped (c : Context) : List Param → Prop
  | [] => True
  | p :: ps => (∀ e, p.default? = some e → e.Typed c.names) ∧ DefaultsTyped (c.withParam p) ps

/-- The checker accepts the parameters at these types and goes on in the last context: what a default
gives may be stored in its parameter. -/
inductive AcceptsParams : Context → List Param → List StaticType → Context → Prop where
  | nil {c} : AcceptsParams c [] [] c
  | cons {c p ps t ts c'} (ht : StaticType.ofTypeExpr? p.type = some t)
      (hdefault : ∀ e, p.default? = some e →
        ∃ found, e.typeIn c.names = .ok found ∧ expectAssignable t found p.line = .ok ())
      (hrest : AcceptsParams (c.declared p.name t) ps ts c') : AcceptsParams c (p :: ps) (t :: ts) c'

/-- Parameters that are declared without a complaint are accepted one by one. -/
theorem AcceptsParams.of_declareParams {c c' : Context} {ps : List Param} {ts : List StaticType}
    (htypes : List.Forall₂ (fun p t => StaticType.ofTypeExpr? p.type = some t) ps ts)
    (h : Check.declareParams ps ts c = (.ok (), c')) : AcceptsParams c ps ts c' := by
  induction htypes generalizing c with
  | nil =>
    obtain ⟨-, rfl⟩ := Check.pure_eq_ok.mp h
    exact .nil
  | @cons p t ps ts ht _ ih =>
    rw [Check.declareParams] at h
    cases he : p.default? with
    | none =>
      simp only [he, Check.bind_eq_ok, Check.declare_eq_ok] at h
      obtain ⟨_, _, ⟨-, rfl⟩, hrest⟩ := h
      exact .cons ht (by simp [he]) (ih hrest)
    | some e =>
      simp only [he, Check.bind_eq_ok, Check.typeOf, Check.examine_eq_ok, Check.declare_eq_ok] at h
      obtain ⟨found, _, ⟨hfound, rfl⟩, _, _, ⟨hok, rfl⟩, _, _, ⟨-, rfl⟩, hrest⟩ := h
      refine .cons ht (fun e' he' => ?_) (ih hrest)
      obtain rfl : e = e' := Option.some.inj (he.symm.trans he')
      exact ⟨found, hfound, hok⟩

/-- A parameter is declared with its resolved type. -/
theorem Context.withParam_eq {c : Context} {p : Param} {t : StaticType}
    (ht : StaticType.ofTypeExpr? p.type = some t) : c.withParam p = c.declared p.name t := by
  rw [Context.withParam, ht]
  rfl

/-- Defaults of accepted parameters have types, each behind the parameters in front of it. -/
theorem AcceptsParams.defaults {c c' : Context} {ps : List Param} {ts : List StaticType}
    (h : AcceptsParams c ps ts c') : DefaultsTyped c ps ∧ c' = c.withParams ps := by
  induction h with
  | nil => exact ⟨trivial, rfl⟩
  | cons ht hdefault _ ih =>
    rw [← Context.withParam_eq ht] at ih
    exact ⟨⟨fun e he => (hdefault e he).imp fun _ => And.left, ih.1⟩, ih.2⟩

/-! ## Functions -/

/-- The types of parameters are those of their annotations. -/
theorem paramTypes_eq_ok {seen : Bool} {ps : List Param} {ts : List StaticType}
    (h : Check.paramTypes seen ps = .ok ts) :
    List.Forall₂ (fun p t => StaticType.ofTypeExpr? p.type = some t) ps ts ∧
      (seen → ∀ p ∈ ps, p.default?.isSome) ∧
      ∀ p ∈ ps.drop (ps.takeWhile (·.default?.isNone)).length, p.default?.isSome := by
  induction ps generalizing seen ts with
  | nil => cases h; simp
  | cons p ps ih =>
    simp only [Check.paramTypes] at h
    split at h
    · cases h
    · next hdefault =>
      simp only [Checked.bind_eq_ok, resolveType_eq_ok] at h
      obtain ⟨t, ht, ts', hrest, hts⟩ := h
      obtain rfl := Except.ok.inj hts
      obtain ⟨htypes, hseen, hdrop⟩ := ih hrest
      refine ⟨.cons ht htypes, ?_, ?_⟩
      · rintro rfl p' hp'
        rcases List.mem_cons.mp hp' with rfl | hp'
        · simpa [Option.isSome_iff_ne_none] using hdefault
        · exact hseen rfl p' hp'
      · cases hp : p.default? with
        | none => simpa [hp] using hdrop
        | some e => simpa [hp] using hseen (by simp [hp])

/-- The signature of a definition tells its annotations, and to find it changes nothing. -/
theorem signature_eq_ok {c c' : Context} {d : FunctionDef Stmt} {s : Signature}
    (h : Check.signature d c = (.ok s, c')) :
    c' = c ∧ StaticType.ofTypeExpr? d.returns = some s.returns ∧ s.required = d.required ∧
      Check.paramTypes false d.params = .ok s.params := by
  simp only [Check.signature, Check.examine_eq_ok] at h
  obtain ⟨h, rfl⟩ := h
  split at h
  · cases h
  · simp only [Checked.bind_eq_ok, resolveType_eq_ok] at h
    obtain ⟨returns, hreturns, params, hparams, hs⟩ := h
    obtain rfl := Except.ok.inj hs
    exact ⟨rfl, hreturns, rfl, hparams⟩

/-- A function that is accepted is none that is visible. -/
theorem signature_fresh {c c' : Context} {d : FunctionDef Stmt} {s : Signature}
    (h : Check.signature d c = (.ok s, c')) : c.names.functions.contains d.name = false := by
  simp only [Check.signature, Check.examine_eq_ok] at h
  obtain ⟨h, rfl⟩ := h
  split at h
  · cases h
  · next hfresh => exact Bool.eq_false_iff.mpr hfresh

/-! ## Statements -/

/-- The checker accepts the statement in the context `c` and goes on in the last one. -/
inductive Accepts (c : Context) : Stmt → Context → Prop where
  | declare {line x type value t found} (ht : StaticType.ofTypeExpr? type = some t)
      (hv : value.typeIn c.names = .ok found) (hok : expectAssignable t found line = .ok ()) :
      Accepts c (.declare line x type value) (c.declared x t)
  | assign {a} (h : Check.assignment a c = (.ok (), c)) : Accepts c (.assign a) c
  | function {f s c₂} (hs : Check.signature f c = (.ok s, c))
      (hparams : Check.declareParams f.params s.params (c.inFunction f.name s) =
        (.ok (), (c.inFunction f.name s).withParams f.params))
      (hdefaults : DefaultsTyped (c.inFunction f.name s) f.params)
      (hbody : Check.statements f.body.statements ((c.inFunction f.name s).withParams f.params) =
        (.ok (), c₂)) :
      Accepts c (.function f) (c.defined f.name s)
  | return {line value f} (hf : c.function? = some f) (hv : value.typeIn c.names = .ok f.returns) :
      Accepts c (.return line value) c
  | branch {line condition yes c₁} (hc : condition.typeIn c.names = .ok .bool)
      (hyes : Check.statements yes.statements c.opened = (.ok (), c₁)) :
      Accepts c (.branch line condition yes none) c
  | branchElse {line condition yes no c₁ c₂} (hc : condition.typeIn c.names = .ok .bool)
      (hyes : Check.statements yes.statements c.opened = (.ok (), c₁))
      (hno : Check.statements no.statements c.opened = (.ok (), c₂)) :
      Accepts c (.branch line condition yes (some no)) c
  | while {line condition body c₁} (hc : condition.typeIn c.names = .ok .bool)
      (hbody : Check.statements body.statements c.inLoop.opened = (.ok (), c₁)) :
      Accepts c (.while line condition body) c
  | for {line init condition update body c₁ c₂}
      (hinit : Check.statement init c.opened = (.ok (), c₁))
      (hc : condition.typeIn c₁.names = .ok .bool) (hu : Check.assignment update c₁ = (.ok (), c₁))
      (hbody : Check.statements body.statements c₁.inLoop = (.ok (), c₂)) :
      Accepts c (.for line init condition update body) c
  | break {line} (h : c.loopDepth ≠ 0) : Accepts c (.break line) c
  | continue {line} (h : c.loopDepth ≠ 0) : Accepts c (.continue line) c
  | seq {body c₁} (hbody : Check.statements body.statements c.opened = (.ok (), c₁)) :
      Accepts c (.seq body) c
  | block {body c₁} (hbody : Check.statements body.statements c.opened = (.ok (), c₁)) :
      Accepts c (.block body) c
  | par {units} (h : ∀ s ∈ units.statements, ∃ c₁, Check.statement s c.inUnit = (.ok (), c₁)) :
      Accepts c (.par units) c
  | expr {line value t} (hv : value.typeIn c.names = .ok t) : Accepts c (.expr line value) c
  | server {ch} (hd : ch.description.typeIn c.names = .ok .string)
      (hh : ch.host.typeIn c.names = .ok .string) (hp : ch.port.typeIn c.names = .ok .number) :
      Accepts c (.server ch) c
  | client {ch} (hh : ch.host.typeIn c.names = .ok .string)
      (hp : ch.port.typeIn c.names = .ok .number) :
      Accepts c (.client ch) (c.declared ch.name .string)

namespace Check

variable {c c' : Context} {u : Unit}

/-- Each unit of an accepted parallel block is accepted in the context of the block. -/
theorem units_eq_ok {units : List Stmt} (h : Check.units units c = (.ok u, c')) :
    (∀ s ∈ units, ∃ c₁, Check.statement s c.inUnit = (.ok (), c₁)) ∧ c' = c := by
  induction units with
  | nil =>
    obtain ⟨-, rfl⟩ := pure_eq_ok.mp h
    exact ⟨by simp, rfl⟩
  | cons s rest ih =>
    rw [Check.units] at h
    cases hj : jumpOf? s with
    | some j =>
      rw [hj] at h
      obtain ⟨_, _, hreject, -⟩ := bind_eq_ok.mp h
      exact absurd hreject not_reject_eq_ok
    | none =>
      simp only [hj, bind_eq_ok, within_nested_eq_ok (statement_restores _)] at h
      obtain ⟨_, _, ⟨hs, rfl⟩, hrest⟩ := h
      obtain ⟨hunits, rfl⟩ := ih hrest
      exact ⟨List.forall_mem_cons.mpr ⟨hs, hunits⟩, rfl⟩

/-! ### One lemma for each form of statement -/

section

variable {line : Nat} {value condition : Expr} {body : Block Stmt}

/-- A declaration: its value may be stored, and its name is new in the scope. -/
theorem accepts_declare {x : String} {type : TypeExpr}
    (h : Check.statement (.declare line x type value) c = (.ok u, c')) :
    Accepts c (.declare line x type value) c' := by
  simp only [Check.statement, bind_eq_ok, typeOf, examine_eq_ok, resolveType_eq_ok, declare_eq_ok] at h
  obtain ⟨t, _, ⟨ht, rfl⟩, found, _, ⟨hfound, rfl⟩, _, _, ⟨hok, rfl⟩, -, rfl⟩ := h
  exact .declare ht hfound hok

/-- An assignment, by its target and its value. -/
theorem accepts_assign {a : Assignment} (h : Check.statement (.assign a) c = (.ok u, c')) :
    Accepts c (.assign a) c' := by
  obtain ⟨-, rfl⟩ := assignment_eq_ok.mp h
  exact .assign h

/-- The function is known behind its definition and in its own body, which has a scope with the parameters
in it. -/
theorem accepts_function {f : FunctionDef Stmt} (h : Check.statement (.function f) c = (.ok u, c')) :
    Accepts c (.function f) c' := by
  simp only [Check.statement, bind_eq_ok, define_eq_ok] at h
  obtain ⟨s, c₀, hs, _, _, rfl, h⟩ := h
  obtain ⟨rfl, -, -, hparams⟩ := signature_eq_ok hs
  rw [within_nested_eq_ok (.bind (restoring_declareParams _ _) fun _ => statements_restore _)] at h
  obtain ⟨⟨c₂, hin⟩, rfl⟩ := h
  obtain ⟨_, c₁, hdeclare, hbody⟩ := bind_eq_ok.mp hin
  obtain ⟨hdefaults, rfl⟩ :=
    (AcceptsParams.of_declareParams (paramTypes_eq_ok hparams).1 hdeclare).defaults
  exact .function hs hdeclare hdefaults hbody

/-- A `return` stands in a function and gives a value of the type that the function returns. -/
theorem accepts_return (h : Check.statement (.return line value) c = (.ok u, c')) :
    Accepts c (.return line value) c' := by
  simp only [Check.statement, returned, examine_eq_ok] at h
  obtain ⟨h, rfl⟩ := h
  split at h
  · cases h
  · next f hf =>
    simp only [Checked.bind_eq_ok] at h
    obtain ⟨t, ht, h⟩ := h
    split at h
    · next heq => exact .return hf (heq ▸ ht)
    · cases h

/-- Each block of a branch is checked in the context in front of the branch. -/
theorem accepts_branch {yes : Block Stmt} {no? : Option (Block Stmt)}
    (h : Check.statement (.branch line condition yes no?) c = (.ok u, c')) :
    Accepts c (.branch line condition yes no?) c' := by
  cases no? with
  | none =>
    simp only [Check.statement, bind_eq_ok, expectTyped_eq_ok, nested_eq_ok (statements_restore _)] at h
    obtain ⟨_, _, ⟨hc, rfl⟩, ⟨c₁, hyes⟩, rfl⟩ := h
    exact .branch hc hyes
  | some no =>
    simp only [Check.statement, bind_eq_ok, expectTyped_eq_ok, nested_eq_ok (statements_restore _)] at h
    obtain ⟨_, _, ⟨hc, rfl⟩, _, _, ⟨⟨c₁, hyes⟩, rfl⟩, ⟨c₂, hno⟩, rfl⟩ := h
    exact .branchElse hc hyes hno

/-- A loop: its condition is a truth value, and its body is accepted in a scope of its own. -/
theorem accepts_while (h : Check.statement (.while line condition body) c = (.ok u, c')) :
    Accepts c (.while line condition body) c' := by
  simp only [Check.statement, bind_eq_ok, expectTyped_eq_ok,
    looped_nested_eq_ok (statements_restore _)] at h
  obtain ⟨_, _, ⟨hc, rfl⟩, ⟨c₁, hbody⟩, rfl⟩ := h
  exact .while hc hbody

/-- The clauses of a `for` and its body share one scope, in which the body sees what the init clause
declares. -/
theorem accepts_for {init : Stmt} {update : Assignment}
    (h : Check.statement (.for line init condition update body) c = (.ok u, c')) :
    Accepts c (.for line init condition update body) c' := by
  rw [Check.statement, nested_eq_ok (.bind (statement_restores _) fun _ =>
    .bind (restoring_expectTyped _ _ _ _) fun _ =>
      .bind (restoring_assignment _) fun _ => (statements_restore _).looped)] at h
  obtain ⟨⟨c₂, hin⟩, rfl⟩ := h
  simp only [bind_eq_ok, expectTyped_eq_ok] at hin
  obtain ⟨_, _, hinit, _, _, ⟨hc, rfl⟩, _, c₁, hu, hbody⟩ := hin
  obtain ⟨-, rfl⟩ := assignment_eq_ok.mp hu
  obtain ⟨c₃, hbody⟩ := looped_eq_ok hbody
  exact .for hinit hc hu hbody

/-- A jump stands in a loop. -/
theorem loopDepth_of_jump {j : Jump} (h : Check.jump j line c = (.ok u, c')) :
    c.loopDepth ≠ 0 ∧ c' = c := by
  simp only [jump, examine_eq_ok] at h
  obtain ⟨h, rfl⟩ := h
  split at h
  · cases h
  · next hloop => exact ⟨hloop, rfl⟩

/-- An expression that stands as a statement has a type. -/
theorem accepts_expr (h : Check.statement (.expr line value) c = (.ok u, c')) :
    Accepts c (.expr line value) c' := by
  simp only [Check.statement, bind_eq_ok, typeOf, examine_eq_ok, pure_eq_ok] at h
  obtain ⟨t, _, ⟨ht, rfl⟩, -, rfl⟩ := h
  exact .expr ht

/-- A server takes a text, the host and the port. -/
theorem accepts_server {ch : ServerChannel} (h : Check.statement (.server ch) c = (.ok u, c')) :
    Accepts c (.server ch) c' := by
  simp only [Check.statement, Check.server, endpoint, bind_eq_ok, examine_eq_ok,
    expectTyped_eq_ok] at h
  obtain ⟨_, _, ⟨-, rfl⟩, _, _, ⟨hd, rfl⟩, _, _, ⟨hh, rfl⟩, hp, rfl⟩ := h
  exact .server hd hh hp

/-- A client takes the host and the port, and its name becomes a variable that holds a text. -/
theorem accepts_client {ch : ClientChannel} (h : Check.statement (.client ch) c = (.ok u, c')) :
    Accepts c (.client ch) c' := by
  simp only [Check.statement, Check.client, endpoint, bind_eq_ok, expectTyped_eq_ok,
    declare_eq_ok] at h
  obtain ⟨_, _, ⟨_, _, ⟨hh, rfl⟩, hp, rfl⟩, -, rfl⟩ := h
  exact .client hh hp

end

/-- **An accepted statement comes apart into accepted parts.** -/
theorem accepts_of_statement {s : Stmt} (h : Check.statement s c = (.ok u, c')) :
    Accepts c s c' := by
  cases s with
  | declare line x type value => exact accepts_declare h
  | assign a => exact accepts_assign h
  | function f => exact accepts_function h
  | «return» line value => exact accepts_return h
  | branch line condition yes no? => exact accepts_branch h
  | «while» line condition body => exact accepts_while h
  | «for» line init condition update body => exact accepts_for h
  | «break» line =>
    obtain ⟨hloop, rfl⟩ := loopDepth_of_jump h
    exact .break hloop
  | «continue» line =>
    obtain ⟨hloop, rfl⟩ := loopDepth_of_jump h
    exact .continue hloop
  | seq body =>
    obtain ⟨⟨c₁, hbody⟩, rfl⟩ := (nested_eq_ok (statements_restore _)).mp h
    exact .seq hbody
  | block body =>
    obtain ⟨⟨c₁, hbody⟩, rfl⟩ := (nested_eq_ok (statements_restore _)).mp h
    exact .block hbody
  | par units =>
    obtain ⟨hunits, rfl⟩ := units_eq_ok h
    exact .par hunits
  | expr line value => exact accepts_expr h
  | server ch => exact accepts_server h
  | client ch => exact accepts_client h

/-- Accepted statements are an accepted one and, behind it, accepted ones. -/
theorem statements_cons {s : Stmt} {rest : List Stmt}
    (h : Check.statements (s :: rest) c = (.ok u, c')) :
    ∃ c₁, Check.statement s c = (.ok (), c₁) ∧ Check.statements rest c₁ = (.ok (), c') := by
  obtain ⟨_, c₁, hs, hrest⟩ := bind_eq_ok.mp h
  exact ⟨c₁, hs, hrest⟩

end Check

end ParLang
