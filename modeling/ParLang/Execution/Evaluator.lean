import ParLang.Execution.Interpreter

/-!
# Running programs

The interpreter that runs programs. It goes by the scopes and the tables of the unit's machine alone.
-/

namespace ParLang.Exec

/-- The interpreter that keeps no books. -/
def interpreter : Interpreter Exec Unit Function where
  lift x := x
  inScope := inScope
  inCall := inCall
  go _ _ := ()
  lookUp _ := variableValue
  store _ := assignVariable
  declare _ name _ v := declare name v
  define _ := define
  callee _ := functionNamed
  function f := f
  origin _ := ()
  callBuiltin _ _ := callBuiltin
  attach := attach
  fork _ budget units _ := fork budget units

/-- Evaluates an expression. -/
def eval (n : Nat) (e : Expr) : Exec Value :=
  interpreter.eval n () e

/-- Evaluates expressions from left to right. -/
def evalAll (n : Nat) (es : List Expr) : Exec (List Value) :=
  interpreter.evalAll n () es

/-- Runs the body of a function with its parameters bound. -/
def invoke (n : Nat) (d : FunctionDef Stmt) (args : List Value) (line : Nat) : Exec Value :=
  interpreter.invoke n () d args line

/-- Binds parameters to arguments, and behind the last argument to defaults. -/
def bindParams (n : Nat) (function : String) (ps : List Param) (args : List Value) (line : Nat) :
    Exec Unit :=
  interpreter.bindParams n () function ps args line

/-- Runs a statement. -/
def run (n : Nat) (s : Stmt) : Exec Flow :=
  interpreter.run n () s

/-- Runs statements in order, up to the first jump. -/
def runAll (n : Nat) (ss : List Stmt) : Exec Flow :=
  interpreter.runAll n () ss

/-- Evaluates a condition. -/
def test (n : Nat) (e : Expr) : Exec Bool :=
  interpreter.test n () e

/-- Runs an assignment. -/
def assign (n : Nat) (a : Assignment) : Exec Unit :=
  interpreter.assign n () a

/-- Runs the rounds of a loop. -/
def whileLoop (n : Nat) (condition : Expr) (body : List Stmt) : Exec Flow :=
  interpreter.whileLoop n () condition body

/-- Runs the rounds of a loop with an update behind each. -/
def forLoop (n : Nat) (condition : Expr) (update : Assignment) (body : List Stmt) : Exec Flow :=
  interpreter.forLoop n () condition update body

/-- Runs the statements of a program in order; a jump at the top goes nowhere. -/
def runProgram (budget : Nat) (ss : List Stmt) : Exec Unit :=
  interpreter.runProgram budget () ss

/-- Runs a unit of a parallel block; a jump at its top goes nowhere. -/
def runUnit (budget : Nat) (s : Stmt) : Exec Unit :=
  interpreter.runUnit budget () s

/-! ## Expressions -/

variable {n line : Nat} {op : BinaryOp} {left right : Expr} {callee : String} {args : List Expr}

theorem eval_binary :
    eval (n + 1) (.binary line op left right) =
      if op = .and ∨ op = .or then do
        let l ← expectLogical op line (← eval n left)
        if l = (op == .or) then return .bool l
        else return .bool (← expectLogical op line (← eval n right))
      else (do
        let l ← eval n left
        let r ← eval n right
        binaryValue n op l r line) :=
  Interpreter.eval_binary

theorem eval_builtin {builtin : Builtin} (h : Builtin.ofName? callee = some builtin) :
    eval (n + 1) (.call line callee args) = (do
      let vs ← evalAll n args
      callBuiltin n builtin vs line) :=
  Interpreter.eval_builtin h

theorem eval_call (h : Builtin.ofName? callee = none) :
    eval (n + 1) (.call line callee args) = (do
      let f ← functionNamed line callee
      let vs ← evalAll n args
      if vs.length < f.definition.required ∨ f.definition.params.length < vs.length then
        mismatch line (.argumentCount f.definition.name vs.length)
      pause (.call line f)
      inCall f.depth (invoke n f.definition vs line)) :=
  Interpreter.eval_call h

theorem bindParams_default (function : String) (p : Param) (ps : List Param) :
    bindParams (n + 1) function (p :: ps) [] line =
      match p.default? with
      | some e => do
        declare p.name (← eval n e)
        bindParams n function ps [] line
      | none => mismatch line (.missingArgument p.name function) :=
  Interpreter.bindParams_default function p ps

end ParLang.Exec
