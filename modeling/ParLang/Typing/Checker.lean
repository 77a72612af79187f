import ParLang.Typing.Expression

/-!
# Checking programs

`Program.check` accepts a program whose names are declared, whose types agree and whose jumps have a
place to go, and otherwise gives the first complaint in source order. A check keeps its context also
when it fails: what a statement declares goes into the innermost scope and the function table, and
whatever it opens it closes again.
-/

namespace ParLang

/-- The function around a statement, for its `return`s. -/
structure Enclosing where
  name : String
  returns : StaticType
deriving DecidableEq, Inhabited

/-- What is known at a place in the program. -/
structure Context where
  names : Names
  function? : Option Enclosing
  loopDepth : Nat
deriving Inhabited

/-- The start of a program. -/
def Context.initial : Context :=
  ⟨⟨.new, .empty⟩, none, 0⟩

/-- A check that may extend the context. The context is there after a complaint, too. -/
abbrev Check (α : Type) := ExceptT SemanticError (StateM Context) α

namespace Check

/-- A check that only looks at the context. -/
def examine {α : Type} (f : Context → Checked α) : Check α := fun c => (f c, c)

/-- Rejects with a complaint about a line. -/
def reject {α : Type} (line : Nat) (cause : SemanticError.Cause) : Check α := fun c =>
  (complain line cause, c)

/-- Declares a name in the innermost scope, which must not have it. -/
def declare (what : Declared) (name : String) (type : StaticType) (line : Nat) : Check Unit :=
  fun c =>
    if c.names.scopes.inner.contains name then (complain line (.declaredTwice what name), c)
    else
      (.ok (), { c with names.scopes := c.names.scopes.declare name type })

/-- Adds a function to the table. -/
def define (name : String) (signature : Signature) : Check Unit := fun c =>
  (.ok (), { c with names.functions := c.names.functions.insert name signature })

/-- Checks in a nested scope. What is declared and defined inside is forgotten behind it. -/
def nested (check : Check Unit) : Check Unit := fun c =>
  let (result, c') := check { c with names.scopes := c.names.scopes.push }
  (result, { c' with names := ⟨c'.names.scopes.pop, c.names.functions⟩ })

/-- Checks the body of a loop. -/
def looped (check : Check Unit) : Check Unit := fun c =>
  let (result, c') := check { c with loopDepth := c.loopDepth + 1 }
  (result, { c' with loopDepth := c.loopDepth })

/-- Checks inside another function, or inside none, and outside of every loop. -/
def within (function? : Option Enclosing) (check : Check Unit) : Check Unit := fun c =>
  let (result, c') := check { c with function? := function?, loopDepth := 0 }
  (result, { c' with function? := c.function?, loopDepth := c.loopDepth })

/-- The type of an expression. -/
def typeOf (e : Expr) : Check StaticType :=
  examine fun c => e.typeIn c.names

/-- The expression has the type that the place asks for. -/
def expectTyped (role : Role) (expected : StaticType) (e : Expr) (line : Nat) : Check Unit :=
  examine fun c => expectExpr c.names role expected e line

/-- The host and the port of a channel. -/
def endpoint (host port : Expr) (line : Nat) : Check Unit := do
  expectTyped .channelHost .string host line
  expectTyped .channelPort .number port line

/-- The type of what an assignment changes. -/
def targetType (line : Nat) : Target → Check StaticType
  | .variable l name => examine fun c => variableType c.names l name
  | .cell base position => do
    let b ← typeOf base
    expectTyped .index .number position position.line
    match b.element? with
    | some t => return t
    | none => reject line (.notAssignableThrough b)

/-- An assignment. -/
def assignment (a : Assignment) : Check Unit := do
  let target ← targetType a.line a.target
  let value ← typeOf a.value
  examine fun _ => expectAssignable target value a.line

/-- A `return` has a function around it whose type it gives back. -/
def returned (line : Nat) (value : Expr) : Check Unit :=
  examine fun c =>
    match c.function? with
    | none => complain line .returnOutside
    | some f => do
      let t ← value.typeIn c.names
      if t = f.returns then .ok () else complain line (.wrongReturn f.name f.returns t)

/-- A jump has a loop around it. -/
def jump (j : Jump) (line : Nat) : Check Unit :=
  examine fun c => if c.loopDepth = 0 then complain line (.outsideLoop j) else .ok ()

/-- The types of parameters; behind one with a default all must have one. -/
def paramTypes (seenDefault : Bool) : List Param → Checked (List StaticType)
  | [] => .ok []
  | p :: rest => do
    if seenDefault && p.default?.isNone then complain p.line (.missingDefault p.name)
    let t ← resolveType p.type p.line
    let ts ← paramTypes (seenDefault || p.default?.isSome) rest
    return t :: ts

/-- The signature of a function whose name is not yet defined. -/
def signature (d : FunctionDef Stmt) : Check Signature :=
  examine fun c => do
    if c.names.functions.contains d.name then complain d.line (.declaredTwice .function d.name)
    let returns ← resolveType d.returns d.line
    let params ← paramTypes false d.params
    return ⟨params, d.required, returns⟩

/-- Declares the parameters in turn; a default may use those before it. -/
def declareParams : List Param → List StaticType → Check Unit
  | p :: ps, t :: ts => do
    match p.default? with
    | some e =>
      let found ← typeOf e
      examine fun _ => expectAssignable t found p.line
    | none => pure ()
    declare .variable p.name t p.line
    declareParams ps ts
  | _, _ => pure ()

/-- A server channel: its handler is a function that gives back a text. -/
def server (ch : ServerChannel) : Check Unit := do
  examine fun c =>
    match c.names.functions.find? ch.handler with
    | none => complain ch.line (.undeclaredHandler ch.handler)
    | some s =>
      if s.returns = .string then .ok ()
      else complain ch.line (.wrongHandler ch.handler s.returns)
  expectTyped .serverDescription .string ch.description ch.line
  endpoint ch.host ch.port ch.line

/-- A client channel, which declares its name as a text. -/
def client (ch : ClientChannel) : Check Unit := do
  endpoint ch.host ch.port ch.line
  declare .channel ch.name .string ch.line

/-- The jump that a statement is. -/
def jumpOf? : Stmt → Option Jump
  | .break _ => some .break
  | .continue _ => some .continue
  | .return _ _ => some .return
  | _ => none

mutual

/-- A statement. -/
def statement : Stmt → Check Unit
  | .declare line name type value => do
    let declared ← examine fun _ => resolveType type line
    let found ← typeOf value
    examine fun _ => expectAssignable declared found line
    declare .variable name declared line
  | .assign a => assignment a
  | .function d => do
    let s ← signature d
    define d.name s
    within (some ⟨d.name, s.returns⟩) (nested do
      declareParams d.params s.params
      statements d.body.statements)
  | .return line value => returned line value
  | .branch _ condition yes none => do
    expectTyped .condition .bool condition condition.line
    nested (statements yes.statements)
  | .branch _ condition yes (some no) => do
    expectTyped .condition .bool condition condition.line
    nested (statements yes.statements)
    nested (statements no.statements)
  | .while _ condition body => do
    expectTyped .condition .bool condition condition.line
    looped (nested (statements body.statements))
  | .for _ init condition update body =>
    nested do
      statement init
      expectTyped .condition .bool condition condition.line
      assignment update
      looped (statements body.statements)
  | .break line => jump .break line
  | .continue line => jump .continue line
  | .seq body => nested (statements body.statements)
  | .block body => nested (statements body.statements)
  | .par body => units body.statements
  | .expr _ value => do
    let _ ← typeOf value
  | .server ch => server ch
  | .client ch => client ch

/-- Statements in order. -/
def statements : List Stmt → Check Unit
  | [] => pure ()
  | s :: rest => do
    statement s
    statements rest

/-- The units of a parallel block. Each is checked in a scope of its own, outside of every function
and loop, and none may be a jump. -/
def units : List Stmt → Check Unit
  | [] => pure ()
  | s :: rest => do
    match jumpOf? s with
    | some j => reject s.line (.jumpFromUnit j)
    | none => within none (nested (statement s))
    units rest

end

end Check

/-- Accepts the program or gives the first complaint. -/
def Program.check (p : Program) : Checked Unit :=
  (Check.statements p.statements .initial).1

end ParLang
