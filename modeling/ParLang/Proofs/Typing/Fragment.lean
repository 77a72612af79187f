import ParLang.Execution.Process
import ParLang.Proofs.Typing.Check

/-!
# What a program declares, and the monomorphic fragment

The variables and the functions of a whole program, in whichever block they are declared, and three
restrictions on programs. A program is monomorphic if no value changes its static type on the way to
where it is stored; only the literal `[]`, which fits every array type, may. A function body surely
returns if a statement of it does whatever the conditions are. Both are stated along the checker's own
way through the program: `Monomorphic` gives each part the context in which the checker checks it.
-/

namespace ParLang

/-! ## Declarations -/

mutual

/-- The variables that a statement declares anywhere inside, parameters and channels included, with
the types they are declared with. -/
def Stmt.declarations : Stmt → List (String × TypeExpr)
  | .declare _ name type _ => [(name, type)]
  | .function d => d.params.map (fun p => (p.name, p.type)) ++ declarationsOf d.body.statements
  | .branch _ _ yes none => declarationsOf yes.statements
  | .branch _ _ yes (some no) => declarationsOf yes.statements ++ declarationsOf no.statements
  | .while _ _ body => declarationsOf body.statements
  | .for _ init _ _ body => init.declarations ++ declarationsOf body.statements
  | .seq body | .par body | .block body => declarationsOf body.statements
  | .client ch => [(ch.name, .named "string")]
  | _ => []

/-- The variables of statements. -/
def declarationsOf : List Stmt → List (String × TypeExpr)
  | [] => []
  | s :: rest => s.declarations ++ declarationsOf rest

end

mutual

/-- The functions that a statement defines anywhere inside, each with the number of scopes that are
open where a run comes to its definition, if `depth` are open at the statement. The body of a `for`
runs in a scope of its own inside that of the loop, and a unit of a parallel block in the scopes of
the block. -/
def Stmt.functions (depth : Nat) : Stmt → List Function
  | .function d => ⟨d, depth⟩ :: functionsOf (depth + 1) d.body.statements
  | .branch _ _ yes none => functionsOf (depth + 1) yes.statements
  | .branch _ _ yes (some no) =>
    functionsOf (depth + 1) yes.statements ++ functionsOf (depth + 1) no.statements
  | .while _ _ body => functionsOf (depth + 1) body.statements
  | .for _ init _ _ body => init.functions (depth + 1) ++ functionsOf (depth + 2) body.statements
  | .seq body | .block body => functionsOf (depth + 1) body.statements
  | .par body => functionsOf depth body.statements
  | _ => []

/-- The functions of statements. -/
def functionsOf (depth : Nat) : List Stmt → List Function
  | [] => []
  | s :: rest => s.functions depth ++ functionsOf depth rest

end

/-- Every variable of the program. -/
def Program.declarations (p : Program) : List (String × TypeExpr) :=
  declarationsOf p.statements

/-- Every function of the program. -/
def Program.functions (p : Program) : List Function :=
  functionsOf 1 p.statements

/-! ## Bodies that surely return -/

mutual

/-- The statement returns, whatever the conditions in it are. -/
def Stmt.surelyReturns : Stmt → Bool
  | .return _ _ => true
  | .branch _ _ yes (some no) => anyReturns yes.statements && anyReturns no.statements
  | .seq body | .block body => anyReturns body.statements
  | _ => false

/-- One of the statements surely returns. -/
def anyReturns : List Stmt → Bool
  | [] => false
  | s :: rest => s.surelyReturns || anyReturns rest

end

/-- The body of every function that gives back a value surely returns. -/
def Program.SurelyReturns (p : Program) : Prop :=
  ∀ f ∈ p.functions, StaticType.ofTypeExpr? f.definition.returns ≠ some .void →
    anyReturns f.definition.body.statements

/-! ## Monomorphic programs -/

/-- The value has exactly the type of the place where it is to be stored, or it is the literal `[]`. -/
def Expr.FitsExactly (names : Names) (t : StaticType) (e : Expr) : Prop :=
  e.typeIn names = .ok t ∨ ∃ line, e = .array line []

mutual

/-- Every argument in the expression fits its parameter exactly. -/
def Expr.Monomorphic (names : Names) : Expr → Prop
  | .binary _ _ left right => left.Monomorphic names ∧ right.Monomorphic names
  | .unary _ _ operand => operand.Monomorphic names
  | .call _ callee args =>
    allMonomorphic names args ∧
      (Builtin.ofName? callee = none → ∀ s, names.functions.find? callee = some s →
        ∀ pair ∈ s.params.zip args, pair.2.FitsExactly names pair.1)
  | .index _ base position => base.Monomorphic names ∧ position.Monomorphic names
  | .array _ items => allMonomorphic names items
  | _ => True

/-- `Expr.Monomorphic` of each of them. -/
def allMonomorphic (names : Names) : List Expr → Prop
  | [] => True
  | e :: rest => e.Monomorphic names ∧ allMonomorphic names rest

end

/-- The value of the assignment fits its target exactly. -/
def Assignment.Monomorphic (c : Context) (a : Assignment) : Prop :=
  (match a.target with
    | .variable _ _ => True
    | .cell base position => base.Monomorphic c.names ∧ position.Monomorphic c.names) ∧
  a.value.Monomorphic c.names ∧
  ∀ t, (Check.targetType a.line a.target c).1 = .ok t → a.value.FitsExactly c.names t

/-- Every default fits its parameter exactly. -/
def monomorphicParams (c : Context) : List Param → List StaticType → Prop
  | p :: ps, t :: ts =>
    (∀ e, p.default? = some e → e.Monomorphic c.names ∧ e.FitsExactly c.names t) ∧
      monomorphicParams (c.declared p.name t) ps ts
  | _, _ => True

mutual

/-- Every value in the statement fits exactly where it is stored; `c` is the context of the
statement. -/
def Stmt.Monomorphic (c : Context) : Stmt → Prop
  | .declare _ _ type value =>
    value.Monomorphic c.names ∧
      ∀ t, StaticType.ofTypeExpr? type = some t → value.FitsExactly c.names t
  | .assign a => a.Monomorphic c
  | .function d =>
    ∀ s, (Check.signature d c).1 = .ok s →
      monomorphicParams (c.inFunction d.name s) d.params s.params ∧
        monomorphicAll (Check.declareParams d.params s.params (c.inFunction d.name s)).2
          d.body.statements
  | .return _ value => value.Monomorphic c.names
  | .branch _ condition yes none =>
    condition.Monomorphic c.names ∧ monomorphicAll c.opened yes.statements
  | .branch _ condition yes (some no) =>
    condition.Monomorphic c.names ∧ monomorphicAll c.opened yes.statements ∧
      monomorphicAll c.opened no.statements
  | .while _ condition body =>
    condition.Monomorphic c.names ∧ monomorphicAll c.inLoop.opened body.statements
  | .for _ init condition update body =>
    init.Monomorphic c.opened ∧
      condition.Monomorphic (Check.statement init c.opened).2.names ∧
      update.Monomorphic (Check.statement init c.opened).2 ∧
      monomorphicAll (Check.statement init c.opened).2.inLoop body.statements
  | .seq body | .block body => monomorphicAll c.opened body.statements
  | .par body => monomorphicUnits c body.statements
  | .expr _ value => value.Monomorphic c.names
  | .server ch =>
    ch.description.Monomorphic c.names ∧ ch.host.Monomorphic c.names ∧ ch.port.Monomorphic c.names
  | .client ch => ch.host.Monomorphic c.names ∧ ch.port.Monomorphic c.names
  | .break _ | .continue _ => True

/-- `Stmt.Monomorphic` of statements in order, each in the context that those before it leave. -/
def monomorphicAll (c : Context) : List Stmt → Prop
  | [] => True
  | s :: rest => s.Monomorphic c ∧ monomorphicAll (Check.statement s c).2 rest

/-- `Stmt.Monomorphic` of the units of a parallel block. -/
def monomorphicUnits (c : Context) : List Stmt → Prop
  | [] => True
  | s :: rest => s.Monomorphic c.inUnit ∧ monomorphicUnits c rest

end

/-- At every check that a value may be stored somewhere, the two types are equal or the value is the
literal `[]`. -/
def Program.Monomorphic (p : Program) : Prop :=
  monomorphicAll .initial p.statements

end ParLang
