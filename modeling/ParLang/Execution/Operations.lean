import ParLang.Execution.Builtins

/-!
# Operations of expressions and statements

What the parts of an expression or a statement do with their values, once they are evaluated.
-/

namespace ParLang

/-- How a statement ends: with the next one, or with a jump on its way. -/
inductive Flow where
  | normal
  | break
  | continue
  | return (v : Value)
deriving Inhabited

namespace Exec

/-- The value of a variable. -/
def variableValue (line : Nat) (name : String) : Exec Value := do
  let m ← machine
  match m.scopes.find? name with
  | some v => return v
  | none => fail line (.undeclaredVariable name)

/-- Binds a variable anew. -/
def assignVariable (line : Nat) (name : String) (v : Value) : Exec Unit := do
  let m ← machine
  match m.scopes.assign? name v with
  | some scopes => update fun m => { m with scopes := scopes }
  | none => fail line (.undeclaredVariable name)

/-- The function that a name stands for. -/
def functionNamed (line : Nat) (name : String) : Exec Function := do
  let m ← machine
  match m.functions.find? name with
  | some f => return f
  | none => fail line (.undefinedFunction name)

/-- Defines a function, which sees the scopes that are open now. -/
def define (d : FunctionDef Stmt) : Exec Unit :=
  update fun m => { m with functions := m.functions.insert d.name ⟨d, m.scopes.depth⟩ }

/-- The number that an expression gave. -/
def expectNumber (line : Nat) : Value → Exec Float
  | .number x => pure x
  | v => mismatch line (.notANumber v.kind)

/-- The truth value that a condition gave. -/
def expectCondition (line : Nat) : Value → Exec Bool
  | .bool b => pure b
  | v => mismatch line (.condition v.kind)

/-- The truth value that an operand of a logical operator gave. -/
def expectLogical (op : BinaryOp) (line : Nat) : Value → Exec Bool
  | .bool b => pure b
  | v => mismatch line (.logical op v.kind)

/-- The value of an operator in front of an operand. -/
def unaryValue (op : UnaryOp) (v : Value) (line : Nat) : Exec Value :=
  match op, v with
  | .neg, .number x => pure (.number (-x))
  | .not, .bool b => pure (.bool !b)
  | _, _ => mismatch line (.operand op v.kind)

/-- The value of an operator on two numbers, for the operators that take them. -/
def numberValue? (op : BinaryOp) (x y : Float) : Option Value :=
  match op with
  | .add => some (.number (x + y))
  | .sub => some (.number (x - y))
  | .mul => some (.number (x * y))
  | .div => some (.number (x / y))
  | .rem => some (.number (Number.remainder x y))
  | .lt => some (.bool (x < y))
  | .ltEq => some (.bool (x ≤ y))
  | .gt => some (.bool (y < x))
  | .gtEq => some (.bool (y ≤ x))
  | .and | .or | .eq | .notEq => none

/-- The value of an operator between two operands that are both evaluated. A comparison looks at arrays
up to a depth. -/
def binaryValue (depth : Nat) (op : BinaryOp) (l r : Value) (line : Nat) : Exec Value := do
  match op with
  | .eq => return .bool (← equalValues depth l r)
  | .notEq => return .bool !(← equalValues depth l r)
  | _ =>
    match op, l, r with
    | .add, .text s, .text t => return .text (s ++ t)
    | .add, .array g, .array h =>
      let xs ← inspect (.items g)
      let ys ← inspect (.items h)
      allocate (xs ++ ys)
    | _, .number x, .number y =>
      match numberValue? op x y with
      | some v => return v
      | none => mismatch line (.operands op l.kind r.kind)
    | _, _, _ => mismatch line (.operands op l.kind r.kind)

/-- The place that a number stands for in something of the given length. -/
def slotOf (raw : Float) (length : Nat) (line : Nat) : Exec Nat :=
  match Number.slot? raw length with
  | some i => pure i
  | none => fail line (.indexOutOfBounds raw length)

/-- The element of an array or the character of a text at a place. -/
def indexValue (base : Value) (raw : Float) (line : Nat) : Exec Value := do
  match base with
  | .array h =>
    let length ← inspect (.length h)
    let i ← slotOf raw length line
    match ← inspect (.cell h i) with
    | some v => return v
    | none => fail line (.indexOutOfBounds raw length)
  | .text s =>
    let i ← slotOf raw s.length line
    match s.toList[i]? with
    | some c => return .text (String.singleton c)
    | none => fail line (.indexOutOfBounds raw s.length)
  | v => mismatch line (.notIndexable v.kind)

/-- Stores a value in a cell of an array. -/
def storeCell (h : Handle) (raw : Float) (v : Value) (line : Nat) : Exec Unit := do
  let length ← inspect (.length h)
  let i ← slotOf raw length line
  unless ← perform (.setCell h i v) do
    fail line (.indexOutOfBounds raw length)

/-- The host of a channel. -/
def hostOf (line : Nat) : Value → Exec String
  | .text s => pure s
  | v => mismatch line (.host v.kind)

/-- The port of a channel: a whole number from 0 to 65535. -/
def portOf (line : Nat) : Value → Exec Nat
  | .number x =>
    match Number.wholeUpTo? x 65535 with
    | some port => pure port
    | none => mismatch line (.invalidPort x)
  | v => mismatch line (.port v.kind)

/-- Opens a channel under a name. A channel that was open under the name is closed. -/
def attach (line : Nat) (name host : String) (port : Nat) : Exec Unit := do
  let reply ← perform (.connect host port)
  let connection ← orFail line (.connect host port) reply
  let m ← machine
  update fun m => { m with channels := m.channels.insert name connection }
  match m.channels.find? name with
  | some previous => perform (.shutdown previous)
  | none => pure ()

/-- Starts a server and says so. -/
def openServer (line : Nat) (name host : String) (port : Nat) : Exec Unit := do
  let reply ← perform (.listen host port)
  let bound ← orFail line (.listen host port) reply
  let said ← perform
    (.emit ("server '" ++ name ++ "' listening on " ++ host ++ ":" ++ toString bound))
  match said with
  | .ok () => return ()
  | .error fault =>
    perform (.unlisten bound)
    fail line (.io .writeOutput fault)

/-- Copies channels for a unit. -/
def shareChannels : List (String × ConnectionId) → Exec Unit
  | [] => return ()
  | (name, connection) :: rest => do
    let shared ← perform (.share connection)
    orFail 0 (.share name) shared
    shareChannels rest

/-- Copies the open channels for each of the units, before any of them starts. -/
def shareWith : List Stmt → Exec Unit
  | [] => return ()
  | _ :: rest => do
    let m ← machine
    shareChannels m.channels.entries
    shareWith rest

/-- The first failure among the results of units. -/
def firstFailure : List UnitResult → UnitResult
  | [] => .ok ()
  | .ok () :: rest => firstFailure rest
  | .error e :: _ => .error e

/-- How a parallel block ends: with the failure of the first unit that failed, if one did. -/
def join (results : List UnitResult) : Exec Flow :=
  match firstFailure results with
  | .ok () => return .normal
  | .error e => throw e

/-- The first failure is that of a unit. -/
theorem mem_of_firstFailure {rs : List UnitResult} {e : RuntimeError}
    (h : firstFailure rs = .error e) : .error e ∈ rs := by
  induction rs with
  | nil => cases h
  | cons r rest ih =>
    cases r with
    | ok => exact List.mem_cons_of_mem _ (ih h)
    | error e' => cases h; exact List.mem_cons_self

/-- A parallel block ends normally if all its units do, and with the failure of one of them otherwise. -/
theorem join_cases (rs : List UnitResult) :
    join rs = pure .normal ∨ ∃ e, .error e ∈ rs ∧ join rs = throw e := by
  unfold join
  split
  · exact .inl rfl
  · next e he => exact .inr ⟨e, mem_of_firstFailure he, rfl⟩

end Exec

end ParLang
