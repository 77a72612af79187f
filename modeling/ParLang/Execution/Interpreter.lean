import ParLang.Execution.Operations

/-!
# Interpreters

How expressions are evaluated and statements are run by one unit. The functions count down a budget
that bounds how deeply they call each other, rounds of a loop included; every other bound comes from
the program.

An `Interpreter` says what it is that is put together: the executions themselves, and what they do where
a name is bound or looked up, a function is defined or called, a channel is opened and units are started.
It may keep books of these, and it is told of the place in the program that it is at.
-/

namespace ParLang

/-- A step from one place of a program to another one. -/
inductive Step where
  /-- To the first statement of a block of the statement, which begins a scope. -/
  | block (i : Nat)
  /-- To the first statement in the body of a `while`. -/
  | loop
  /-- To the init clause of a `for`. -/
  | clause
  /-- To the first statement in the body of a `for`, from behind the init clause. -/
  | round
  /-- To a unit of a parallel block. -/
  | unit (i : Nat)
  /-- Behind the statement. -/
  | past (s : Stmt)
  /-- To the first parameter of a function, from where it is defined. -/
  | params
  /-- Behind the parameter. -/
  | pastParam (p : Param)
  /-- To the first statement in the body of the function, from where it is defined. -/
  | body (d : FunctionDef Stmt)

/-- An interpreter that puts executions of type `M` together, goes by places `P` and calls functions
`F`. -/
structure Interpreter (M : Type → Type) (P F : Type) where
  /-- An operation that binds no name and looks none up. -/
  lift : {α : Type} → Exec α → M α
  inScope : {α : Type} → M α → M α
  inCall : {α : Type} → (depth : Nat) → M α → M α
  /-- Where a step from a place leads. -/
  go : P → Step → P
  lookUp : P → (line : Nat) → (name : String) → M Value
  store : P → (line : Nat) → (name : String) → Value → M Unit
  declare : P → (name : String) → TypeExpr → Value → M Unit
  define : P → FunctionDef Stmt → M Unit
  /-- The function that a name stands for. -/
  callee : P → (line : Nat) → (name : String) → M F
  /-- The function as a machine has it. -/
  function : F → Function
  /-- Where the function is defined. -/
  origin : F → P
  /-- Calls a built-in function, given its arguments as they were written and their values. -/
  callBuiltin : P → List Expr → (depth : Nat) → Builtin → List Value → (line : Nat) → M Value
  attach : (line : Nat) → (name host : String) → (port : Nat) → M Unit
  /-- Has units run beside each other. It is told how a unit would be run at a place. -/
  fork : P → (budget : Nat) → List Stmt → (P → Stmt → M Unit) → M (List UnitResult)

namespace Interpreter

variable {M : Type → Type} [Monad M] {P F : Type} (I : Interpreter M P F)

mutual

/-- Evaluates an expression. -/
def eval : Nat → P → Expr → M Value
  | 0, _, _ => I.lift Exec.exhausted
  | n + 1, q, e => do
    match e with
    | .number _ x => return .number x
    | .text _ s => return .text s
    | .truth _ b => return .bool b
    | .ident line name => I.lookUp q line name
    | .binary line op left right =>
      match op with
      | .and | .or =>
        let l ← I.lift (Exec.expectLogical op line (← eval n q left))
        if l = (op == .or) then return .bool l
        else return .bool (← I.lift (Exec.expectLogical op line (← eval n q right)))
      | _ =>
        let l ← eval n q left
        let r ← eval n q right
        I.lift (Exec.binaryValue n op l r line)
    | .unary line op operand =>
      let v ← eval n q operand
      I.lift (Exec.unaryValue op v line)
    | .call line callee args =>
      match Builtin.ofName? callee with
      | some builtin =>
        let vs ← evalAll n q args
        I.callBuiltin q args n builtin vs line
      | none =>
        let f ← I.callee q line callee
        let d := (I.function f).definition
        let vs ← evalAll n q args
        if vs.length < d.required ∨ d.params.length < vs.length then
          I.lift (Exec.mismatch line (.argumentCount d.name vs.length))
        I.lift (Exec.pause (.call line (I.function f)))
        I.inCall (I.function f).depth (invoke n (I.origin f) d vs line)
    | .index line base position =>
      let b ← eval n q base
      let raw ← I.lift (Exec.expectNumber position.line (← eval n q position))
      I.lift (Exec.indexValue b raw line)
    | .array _ items =>
      let vs ← evalAll n q items
      I.lift (Exec.allocate vs)

/-- Evaluates expressions from left to right. -/
def evalAll : Nat → P → List Expr → M (List Value)
  | 0, _, _ => I.lift Exec.exhausted
  | _ + 1, _, [] => return []
  | n + 1, q, e :: rest => do
    let v ← eval n q e
    return v :: (← evalAll n q rest)

/-- Runs the body of a function, which is defined at the place, with its parameters bound. -/
def invoke : Nat → P → FunctionDef Stmt → List Value → Nat → M Value
  | 0, _, _, _, _ => I.lift Exec.exhausted
  | n + 1, q, d, args, line => do
    bindParams n (I.go q .params) d.name d.params args line
    match ← runAll n (I.go q (.body d)) d.body.statements with
    | .return v => return v
    | _ => return .void

/-- Binds parameters to arguments, and behind the last argument to defaults. -/
def bindParams : Nat → P → String → List Param → List Value → Nat → M Unit
  | 0, _, _, _, _, _ => I.lift Exec.exhausted
  | _ + 1, _, _, [], _, _ => return ()
  | n + 1, q, function, p :: ps, v :: vs, line => do
    I.declare q p.name p.type v
    bindParams n (I.go q (.pastParam p)) function ps vs line
  | n + 1, q, function, p :: ps, [], line => do
    match p.default? with
    | some e =>
      I.declare q p.name p.type (← eval n q e)
      bindParams n (I.go q (.pastParam p)) function ps [] line
    | none => I.lift (Exec.mismatch line (.missingArgument p.name function))

/-- Runs a statement. -/
def run : Nat → P → Stmt → M Flow
  | 0, _, _ => I.lift Exec.exhausted
  | n + 1, q, s => do
    I.lift (Exec.pause (.statement s))
    match s with
    | .declare _ name type value =>
      I.declare q name type (← eval n q value)
      return .normal
    | .assign a =>
      assign n q a
      return .normal
    | .function d =>
      I.define q d
      return .normal
    | .return _ value => return .return (← eval n q value)
    | .branch _ condition yes no? =>
      if ← test n q condition then I.inScope (runAll n (I.go q (.block 0)) yes.statements)
      else
        match no? with
        | some no => I.inScope (runAll n (I.go q (.block 1)) no.statements)
        | none => return .normal
    | .while _ condition body => whileLoop n q condition body.statements
    | .for _ init condition update body =>
      I.inScope do
        let _ ← run n (I.go q .clause) init
        forLoop n (I.go (I.go q .clause) (.past init)) condition update body.statements
    | .break _ => return .break
    | .continue _ => return .continue
    | .seq body => I.inScope (runAll n (I.go q (.block 0)) body.statements)
    | .block body => I.inScope (runAll n (I.go q (.block 0)) body.statements)
    | .par units =>
      I.lift (Exec.shareWith units.statements)
      let results ← I.fork q n units.statements fun q s => do
        let _ ← run n q s
      I.lift (Exec.join results)
    | .expr _ value =>
      let _ ← eval n q value
      return .normal
    | .server c =>
      let _ ← eval n q c.description
      let host ← I.lift (Exec.hostOf c.line (← eval n q c.host))
      let port ← I.lift (Exec.portOf c.line (← eval n q c.port))
      I.lift (Exec.openServer c.line c.name host port)
      return .normal
    | .client c =>
      let host ← I.lift (Exec.hostOf c.line (← eval n q c.host))
      let port ← I.lift (Exec.portOf c.line (← eval n q c.port))
      I.attach c.line c.name host port
      I.declare q c.name (.named "string") (.text c.name)
      return .normal

/-- Runs statements in order, up to the first jump. -/
def runAll : Nat → P → List Stmt → M Flow
  | 0, _, _ => I.lift Exec.exhausted
  | _ + 1, _, [] => return .normal
  | n + 1, q, s :: rest => do
    match ← run n q s with
    | .normal => runAll n (I.go q (.past s)) rest
    | flow => return flow

/-- Evaluates a condition. -/
def test : Nat → P → Expr → M Bool
  | 0, _, _ => I.lift Exec.exhausted
  | n + 1, q, e => do
    I.lift (Exec.expectCondition e.line (← eval n q e))

/-- Runs an assignment. -/
def assign : Nat → P → Assignment → M Unit
  | 0, _, _ => I.lift Exec.exhausted
  | n + 1, q, a => do
    match a.target with
    | .variable _ name =>
      let v ← eval n q a.value
      I.store q a.line name v
    | .cell base position =>
      match ← eval n q base with
      | .array h =>
        let raw ← I.lift (Exec.expectNumber position.line (← eval n q position))
        let v ← eval n q a.value
        I.lift (Exec.storeCell h raw v a.line)
      | _ => I.lift (Exec.mismatch a.line .notAnArray)

/-- Runs the rounds of a loop. -/
def whileLoop : Nat → P → Expr → List Stmt → M Flow
  | 0, _, _, _ => I.lift Exec.exhausted
  | n + 1, q, condition, body => do
    I.lift (Exec.pause (.round condition))
    if ← test n q condition then
      match ← I.inScope (runAll n (I.go q .loop) body) with
      | .break => return .normal
      | .return v => return .return v
      | _ => whileLoop n q condition body
    else return .normal

/-- Runs the rounds of a loop with an update behind each. -/
def forLoop : Nat → P → Expr → Assignment → List Stmt → M Flow
  | 0, _, _, _, _ => I.lift Exec.exhausted
  | n + 1, q, condition, update, body => do
    I.lift (Exec.pause (.round condition))
    if ← test n q condition then
      match ← I.inScope (runAll n (I.go q .round) body) with
      | .break => return .normal
      | .return v => return .return v
      | _ =>
        assign n q update
        forLoop n q condition update body
    else return .normal

end

/-- Runs the statements of a program in order; a jump at the top goes nowhere. -/
def runProgram (budget : Nat) : P → List Stmt → M Unit
  | _, [] => return ()
  | q, s :: rest => do
    let _ ← run I budget q s
    runProgram budget (I.go q (.past s)) rest

/-- Runs a unit of a parallel block; a jump at its top goes nowhere. -/
def runUnit (budget : Nat) (q : P) (s : Stmt) : M Unit := do
  let _ ← run I budget q s

/-! ## Expressions -/

variable {I} {n line : Nat} {q : P} {op : BinaryOp} {left right : Expr} {callee : String}
  {args : List Expr}

/-- A logical operator evaluates its right operand only if the left one leaves the value open. All
others evaluate both. -/
theorem eval_binary :
    I.eval (n + 1) q (.binary line op left right) =
      if op = .and ∨ op = .or then do
        let l ← I.lift (Exec.expectLogical op line (← I.eval n q left))
        if l = (op == .or) then return .bool l
        else return .bool (← I.lift (Exec.expectLogical op line (← I.eval n q right)))
      else (do
        let l ← I.eval n q left
        let r ← I.eval n q right
        I.lift (Exec.binaryValue n op l r line)) := by
  cases op <;> rfl

/-- A call of a built-in function. -/
theorem eval_builtin {builtin : Builtin} (h : Builtin.ofName? callee = some builtin) :
    I.eval (n + 1) q (.call line callee args) = (do
      let vs ← I.evalAll n q args
      I.callBuiltin q args n builtin vs line) := by
  simp only [eval, h]

/-- A call of a function of the program. -/
theorem eval_call (h : Builtin.ofName? callee = none) :
    I.eval (n + 1) q (.call line callee args) = (do
      let f ← I.callee q line callee
      let vs ← I.evalAll n q args
      if vs.length < (I.function f).definition.required ∨
          (I.function f).definition.params.length < vs.length then
        I.lift (Exec.mismatch line (.argumentCount (I.function f).definition.name vs.length))
      I.lift (Exec.pause (.call line (I.function f)))
      I.inCall (I.function f).depth (I.invoke n (I.origin f) (I.function f).definition vs line)) := by
  simp only [eval, h]

/-- A parameter without an argument is bound to its default. -/
theorem bindParams_default (function : String) (p : Param) (ps : List Param) :
    I.bindParams (n + 1) q function (p :: ps) [] line =
      match p.default? with
      | some e => do
        I.declare q p.name p.type (← I.eval n q e)
        I.bindParams n (I.go q (.pastParam p)) function ps [] line
      | none => I.lift (Exec.mismatch line (.missingArgument p.name function)) := by
  rw [bindParams]

end Interpreter

end ParLang
