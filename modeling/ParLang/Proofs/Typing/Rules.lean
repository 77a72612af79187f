import Mathlib.Data.List.Forall2
import ParLang.Proofs.Typing.Fragment

/-!
# Typing rules of the monomorphic fragment

The rules by which the values of a run are typed: `HasType` for expressions and `StmtTyped` for
statements. They differ from the checker in three ways. A value is stored only where its very type is
declared, and the literal `[]` has every array type instead. Every declaration is one of the tables
of the whole program, `Globals`, in which a name has one meaning. And a statement is typed for the
number of scopes that are open when a run comes to it, which is not the number that the checker has
open there.
-/

namespace ParLang

/-- The variables of a program with their types and its functions, with one of each name. -/
structure Globals where
  declarations : List (String × StaticType)
  functions : List Function
  declaration_unique : ∀ {x t t'}, (x, t) ∈ declarations → (x, t') ∈ declarations → t = t'
  function_unique : ∀ {f g}, f ∈ functions → g ∈ functions →
    f.definition.name = g.definition.name → f = g

/-! ## Expressions -/

/-- The type of an expression, with the types of names and the signatures of functions. -/
inductive HasType (names : Names) : Expr → StaticType → Prop where
  | number {line x} : HasType names (.number line x) .number
  | text {line s} : HasType names (.text line s) .string
  | truth {line b} : HasType names (.truth line b) .bool
  | ident {line x t} (hx : names.scopes.find? x = some t) : HasType names (.ident line x) t
  | binary {line op left right l r t} (hl : HasType names left l) (hr : HasType names right r)
      (ht : binaryType? op l r = some t) : HasType names (.binary line op left right) t
  | unary {line op operand} (he : HasType names operand (unaryType op)) :
      HasType names (.unary line op operand) (unaryType op)
  | builtin {line callee args b ts t} (hb : Builtin.ofName? callee = some b)
      (hargs : List.Forall₂ (HasType names) args ts) (ht : builtinType b ts line = .ok t) :
      HasType names (.call line callee args) t
  /-- Behind the arguments that are given every parameter has a default. -/
  | call {line callee args s} (hb : Builtin.ofName? callee = none)
      (hf : names.functions.find? callee = some s) (hreq : s.required ≤ args.length)
      (hargs : List.Forall₂ (HasType names) args (s.params.take args.length)) :
      HasType names (.call line callee args) s.returns
  | index {line base position b t} (hb : HasType names base b)
      (hp : HasType names position .number) (ht : indexType b line = .ok t) :
      HasType names (.index line base position) t
  | array {line items element t} (hitems : ∀ e ∈ items, HasType names e element)
      (ht : element.arrayOf? = some t) : HasType names (.array line items) t

/-- The type of an assignment's target and of its value. -/
inductive AssignTyped (names : Names) : Assignment → Prop where
  | variable {line l x value t} (hx : names.scopes.find? x = some t) (hv : HasType names value t) :
      AssignTyped names ⟨line, .variable l x, value⟩
  | cell {line base position value b t} (hb : HasType names base b)
      (hp : HasType names position .number) (ht : b.element? = some t) (hv : HasType names value t) :
      AssignTyped names ⟨line, .cell base position, value⟩

/-! ## Statements -/

/-- Parameters with their types, and the context behind them. -/
inductive ParamsTyped (G : Globals) : Context → List Param → List StaticType → Context → Prop where
  | nil {c} : ParamsTyped G c [] [] c
  | cons {c p ps t ts c'} (hdefault : ∀ e, p.default? = some e → HasType c.names e t)
      (hx : (p.name, t) ∈ G.declarations) (hrest : ParamsTyped G (c.declared p.name t) ps ts c') :
      ParamsTyped G c (p :: ps) (t :: ts) c'

mutual

/-- A statement at the given depth, with its context and the context behind it. -/
inductive StmtTyped (G : Globals) : Nat → Context → Stmt → Context → Prop where
  | declare {d c line x type value t} (ht : StaticType.ofTypeExpr? type = some t)
      (hv : HasType c.names value t) (hx : (x, t) ∈ G.declarations) :
      StmtTyped G d c (.declare line x type value) (c.declared x t)
  | assign {d c a} (h : AssignTyped c.names a) : StmtTyped G d c (.assign a) c
  | function {d c f s} (h : FunctionTyped G d c f s) :
      StmtTyped G d c (.function f) (c.defined f.name s)
  | return {d c line value f} (hf : c.function? = some f) (hv : HasType c.names value f.returns) :
      StmtTyped G d c (.return line value) c
  | branch {d c line condition yes c₁} (hc : HasType c.names condition .bool)
      (hyes : StmtsTyped G (d + 1) c.opened yes.statements c₁) :
      StmtTyped G d c (.branch line condition yes none) c
  | branchElse {d c line condition yes no c₁ c₂} (hc : HasType c.names condition .bool)
      (hyes : StmtsTyped G (d + 1) c.opened yes.statements c₁)
      (hno : StmtsTyped G (d + 1) c.opened no.statements c₂) :
      StmtTyped G d c (.branch line condition yes (some no)) c
  | while {d c line condition body c₁} (hc : HasType c.names condition .bool)
      (hbody : StmtsTyped G (d + 1) c.inLoop.opened body.statements c₁) :
      StmtTyped G d c (.while line condition body) c
  | for {d c line init condition update body c₁ c₂} (hinit : StmtTyped G (d + 1) c.opened init c₁)
      (hc : HasType c₁.names condition .bool) (hu : AssignTyped c₁.names update)
      (hbody : StmtsTyped G (d + 2) c₁.inLoop body.statements c₂) :
      StmtTyped G d c (.for line init condition update body) c
  | break {d c line} (h : c.loopDepth ≠ 0) : StmtTyped G d c (.break line) c
  | continue {d c line} (h : c.loopDepth ≠ 0) : StmtTyped G d c (.continue line) c
  | seq {d c body c₁} (hbody : StmtsTyped G (d + 1) c.opened body.statements c₁) :
      StmtTyped G d c (.seq body) c
  | block {d c body c₁} (hbody : StmtsTyped G (d + 1) c.opened body.statements c₁) :
      StmtTyped G d c (.block body) c
  | par {d c units} (h : UnitsTyped G d c units.statements) : StmtTyped G d c (.par units) c
  | expr {d c line value t} (hv : HasType c.names value t) : StmtTyped G d c (.expr line value) c
  | server {d c ch} (hd : HasType c.names ch.description .string)
      (hh : HasType c.names ch.host .string) (hp : HasType c.names ch.port .number) :
      StmtTyped G d c (.server ch) c
  | client {d c ch} (hh : HasType c.names ch.host .string) (hp : HasType c.names ch.port .number)
      (hx : (ch.name, StaticType.string) ∈ G.declarations) :
      StmtTyped G d c (.client ch) (c.declared ch.name .string)

/-- Statements in order. -/
inductive StmtsTyped (G : Globals) : Nat → Context → List Stmt → Context → Prop where
  | nil {d c} : StmtsTyped G d c [] c
  | cons {d c s rest c₁ c₂} (hs : StmtTyped G d c s c₁) (hrest : StmtsTyped G d c₁ rest c₂) :
      StmtsTyped G d c (s :: rest) c₂

/-- The units of a parallel block, each in the context of the block. -/
inductive UnitsTyped (G : Globals) : Nat → Context → List Stmt → Prop where
  | nil {d c} : UnitsTyped G d c []
  | cons {d c s rest c₁} (hs : StmtTyped G d c.inUnit s c₁) (hrest : UnitsTyped G d c rest) :
      UnitsTyped G d c (s :: rest)

/-- A function with its signature; `c` is the context of the definition. -/
inductive FunctionTyped (G : Globals) : Nat → Context → FunctionDef Stmt → Signature → Prop where
  | intro {d c f s c₁ c₂} (hmem : ⟨f, d⟩ ∈ G.functions) (hreq : s.required = f.required)
      (hdefaults : ∀ p ∈ f.params.drop f.required, p.default?.isSome)
      (hparams : ParamsTyped G (c.inFunction f.name s) f.params s.params c₁)
      (hbody : StmtsTyped G (d + 1) c₁ f.body.statements c₂)
      (hreturns : s.returns ≠ .void → anyReturns f.body.statements) : FunctionTyped G d c f s

end

/-- Each of the typed units of a block is typed where it stands. -/
theorem UnitsTyped.mem {G : Globals} {d : Nat} {c : Context} {units : List Stmt}
    (h : UnitsTyped G d c units) : ∀ s ∈ units, ∃ c₁, StmtTyped G d c.inUnit s c₁ := by
  induction units with
  | nil => simp
  | cons s rest ih =>
    cases h with
    | cons hs hrest =>
      intro s' hs'
      rcases List.mem_cons.mp hs' with rfl | hs'
      · exact ⟨_, hs⟩
      · exact ih hrest s' hs'

end ParLang
