import ParLang.Execution.Evaluator
import ParLang.Proofs.Scope.Labels
import ParLang.Proofs.Typing.Inversion

/-!
# Running with resolved names

A binding of a run is made by a declaration of the program, and an identifier is resolved by the
checker to a declaration of the program; likewise for functions. `Traced` is the interpreter with both
written down. Beside the scopes of the machine it keeps labels, which name the declaration that made
each binding, and beside the table of functions where each of them was defined; and it goes by places
that carry what the checker knew there, with labels and functions of its own.

A call runs the function that the checker sees under the name, and gives up unless the machine has the
function of that very definition under it. Where an identifier is evaluated or assigned to, a run under
the watch `names` gives up unless the binding that is found was made by the declaration that the
checker found; under the watch `calls` it is enough that there is a binding.

Declarations are named by their places. `plain` forgets what is written down, so the traced run of a
program is plainly its run if and only if it never gives up.
-/

namespace ParLang

/-- A place in a program, as the steps to it from the top, the last step first. -/
abbrev Site := List Nat

/-- The site behind one in a sequence. -/
def Site.next : Site → Site
  | [] => []
  | i :: q => (i + 1) :: q

/-- The declaration of a variable: its place, and the type that it gives to the variable. -/
structure Declaration where
  place : Site
  type : StaticType
deriving DecidableEq

/-- The variable that a statement declares in the scope it stands in, with its type. -/
def Stmt.declares? : Stmt → Option (String × StaticType)
  | .declare _ x type _ => some (x, (StaticType.ofTypeExpr? type).getD .void)
  | .client ch => some (ch.name, .string)
  | _ => none

/-- The labels behind the statement at a place. -/
def Stmt.mark (q : Site) (s : Stmt) (labels : Scopes Declaration) : Scopes Declaration :=
  match s.declares? with
  | some (x, t) => labels.declare x ⟨q, t⟩
  | none => labels

/-! ## The checker's side -/

mutual

/-- What is known at a place in the program. -/
structure Static where
  /-- What the checker knows. -/
  context : Context
  /-- The declarations that its variables come from. -/
  labels : Scopes Declaration
  /-- How many scopes are open when a run comes here. -/
  depth : Nat
  /-- The place is in the body of a function. -/
  inner : Bool
  /-- The functions that the checker sees. -/
  functions : NameMap Closure

/-- A function with where it is defined and what is known there. -/
structure Closure where
  definition : FunctionDef Stmt
  place : Site
  static : Static

end

/-- The function as a machine has it. -/
def Closure.function (cl : Closure) : Function :=
  ⟨cl.definition, cl.static.depth⟩

namespace Static

/-- The start of a program. -/
def initial : Static :=
  ⟨.initial, .new, 1, false, .empty⟩

/-- The declaration that the checker resolves a name to. -/
def resolve? (S : Static) (x : String) : Option Declaration :=
  S.context.names.scopes.label? S.labels x

/-- In a new scope. -/
def opened (S : Static) : Static :=
  { S with context := S.context.opened, labels := S.labels.push, depth := S.depth + 1 }

/-- In the body of a loop. -/
def inLoop (S : Static) : Static :=
  { S with context := S.context.inLoop }

/-- In the body of a `for`, which runs in a scope that the checker does not open. -/
def inRound (S : Static) : Static :=
  { S.inLoop with depth := S.depth + 1 }

/-- In a unit of a parallel block, which runs in the scopes of the block. -/
def inUnit (S : Static) : Static :=
  { S with context := S.context.inUnit, labels := S.labels.push }

/-- Before the parameters of the function at the place. -/
def inFunction (S : Static) (f : FunctionDef Stmt) (q : Site) : Static where
  context :=
    match (Check.signature f S.context).1 with
    | .ok s => S.context.inFunction f.name s
    | .error _ => S.context
  labels := S.labels.push
  depth := S.depth + 1
  inner := true
  functions := S.functions.insert f.name ⟨f, q, S⟩

/-- The declaration that a parameter at the place is. -/
def declarationOf (p : Param) (q : Site) : Declaration :=
  ⟨q, (StaticType.ofTypeExpr? p.type).getD .void⟩

/-- Behind a parameter, which stands at the place. -/
def withParam (S : Static) (p : Param) (q : Site) : Static :=
  { S with
    context := S.context.withParam p
    labels := S.labels.declare p.name (declarationOf p q) }

/-- Behind the parameters of the function at the place, from number `i` on. -/
def withParams (S : Static) (q : Site) (i : Nat) : List Param → Static
  | [] => S
  | p :: ps => (S.withParam p (i :: 0 :: q)).withParams q (i + 1) ps

/-- Behind the statement at a place. -/
def after (S : Static) (q : Site) (s : Stmt) : Static :=
  { S with
    context := (Check.statement s S.context).2
    labels := s.mark q S.labels
    functions :=
      match s with
      | .function f => S.functions.insert f.name ⟨f, q, S⟩
      | _ => S.functions }

end Static

/-- Before the parameters of the function. -/
def Closure.inside (cl : Closure) : Static :=
  cl.static.inFunction cl.definition cl.place

/-- Before the body of the function. -/
def Closure.body (cl : Closure) : Static :=
  cl.inside.withParams cl.place 0 cl.definition.params

/-- A place in a program with what is known there. -/
structure Traced.Place where
  static : Static
  site : Site

namespace Traced.Place

/-- The first statement of a program. -/
def initial : Place :=
  ⟨.initial, [0]⟩

/-- Where a step leads. The checker has no scope of its own for the body of a `for`. -/
def go : Place → Step → Place
  | ⟨S, q⟩, .block i => ⟨S.opened, 0 :: i :: q⟩
  | ⟨S, q⟩, .loop => ⟨S.inLoop.opened, 0 :: 0 :: q⟩
  | ⟨S, q⟩, .clause => ⟨S.opened, 0 :: q⟩
  | ⟨S, q⟩, .round => ⟨S.inRound, 0 :: q⟩
  | ⟨S, q⟩, .unit i => ⟨S.inUnit, i :: q⟩
  | ⟨S, q⟩, .past s => ⟨S.after q s, q.next⟩
  | ⟨S, q⟩, .params => ⟨S, 0 :: 0 :: q⟩
  | ⟨S, q⟩, .pastParam p => ⟨S.withParam p q, q.next⟩
  | ⟨S, q⟩, .body d => ⟨S.withParams q 0 d.params, 0 :: 1 :: q⟩

end Traced.Place

/-! ## The run's side -/

/-- What is written down beside the machine of a unit. -/
structure Trace where
  labels : Scopes Declaration
  closures : NameMap Closure

/-- The main unit before it has run anything. -/
def Trace.initial : Trace :=
  ⟨.new, .empty⟩

/-- What a traced run looks after: that calls run the functions that the checker means, or also that
names stand for what the declarations made that the checker means. -/
inductive Watch where
  | calls | names
deriving DecidableEq

/-- The run may go on with a binding that `made` has made where the checker found `declared`. -/
def Watch.accepts (w : Watch) (declared made : Declaration) : Bool :=
  match w with
  | .calls => true
  | .names => declared = made

/-- An execution that writes down where bindings and functions come from. -/
abbrev Traced (α : Type) := StateT Trace Exec α

namespace Traced

variable {α : Type}

/-- An execution that makes no binding and defines no function. -/
def lift (x : Exec α) : Traced α :=
  StateT.lift x

/-- The execution without what it writes down. -/
def plain (x : Traced α) (tr : Trace) : Exec α := do
  return (← x tr).1

/-- Goes on with the name only if the checker resolves it and it stands for a binding, and the watch
accepts the two. -/
def atDeclared (w : Watch) (S : Static) (x : String) (y : Exec α) : Traced α := fun tr m =>
  match S.resolve? x, m.scopes.label? tr.labels x with
  | some declared, some made => if w.accepts declared made then lift y tr m else .exhausted
  | _, _ => .exhausted

/-- The function that the checker sees under the name, if the machine has the function of the same
definition under it. -/
def calleeAt (S : Static) (callee : String) : Traced Closure := fun tr m =>
  match S.functions.find? callee, tr.closures.find? callee with
  | some seen, some found =>
    if seen.place = found.place then (pure seen : Traced Closure) tr m else .exhausted
  | _, _ => .exhausted

/-- Runs in a scope of its own. -/
def inScope (x : Traced α) : Traced α := fun tr m =>
  Process.bind (x { tr with labels := tr.labels.push } { m with scopes := m.scopes.push })
    fun (result, m') =>
      .done (result.map fun (a, tr') => (a, { tr' with labels := tr'.labels.pop }),
        { m' with scopes := m'.scopes.pop })

/-- Runs with only the `depth` outermost scopes. -/
def inCall (depth : Nat) (x : Traced α) : Traced α := fun tr m =>
  let (frame, scopes) := m.scopes.enter depth
  let (hidden, labels) := tr.labels.enter depth
  Process.bind (x { tr with labels := labels } { m with scopes := scopes }) fun (result, m') =>
    .done (result.map fun (a, tr') => (a, { tr' with labels := tr'.labels.leave hidden }),
      { m' with scopes := m'.scopes.leave frame })

/-- Binds a name in the innermost scope, and writes down which declaration has bound it. -/
def declare (x : String) (v : Value) (made : Declaration) : Traced Unit := do
  lift (Exec.declare x v)
  modify fun tr => { tr with labels := tr.labels.declare x made }

/-- Defines a function, and writes down where. -/
def define (S : Static) (f : FunctionDef Stmt) (q : Site) : Traced Unit := do
  lift (Exec.define f)
  modify fun tr => { tr with closures := tr.closures.insert f.name ⟨f, q, S⟩ }

open Classical in
/-- Has units run beside each other, if what is asked of them holds. -/
noncomputable def forkIf (budget : Nat) (units : List Stmt) (ok : Trace → Machine → Prop) :
    Traced (List UnitResult) := fun tr m =>
  if ok tr m then lift (Exec.fork budget units) tr m else .exhausted

/-- The interpreter that writes down where bindings and functions come from. The units of a parallel
block run on their own, so what is asked of them is that they do not give up either, whichever unit of
the program they are. -/
noncomputable def interpreter (w : Watch) : Interpreter Traced Place Closure where
  lift := lift
  inScope := inScope
  inCall := inCall
  go := Place.go
  lookUp P line x := atDeclared w P.static x (Exec.variableValue line x)
  store P line x v := atDeclared w P.static x (Exec.assignVariable line x v)
  declare P x type v := declare x v ⟨P.site, (StaticType.ofTypeExpr? type).getD .void⟩
  define P f := define P.static f P.site
  callee P _ name := calleeAt P.static name
  function := Closure.function
  origin cl := ⟨cl.inside, cl.place⟩
  callBuiltin _ _ depth callee vs line := lift (Exec.callBuiltin depth callee vs line)
  attach line name host port := lift (Exec.attach line name host port)
  fork P budget units run :=
    forkIf budget units fun tr m => ∀ i s, units[i]? = some s → ∀ j,
      plain (run (P.go (.unit i)) s) tr (m.child j) = Exec.runUnit budget s (m.child j)

/-- Runs a program. -/
noncomputable def runProgram (w : Watch) (budget : Nat) (ss : List Stmt) : Traced Unit :=
  (interpreter w).runProgram budget .initial ss

end Traced

end ParLang
