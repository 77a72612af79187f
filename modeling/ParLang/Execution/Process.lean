import ParLang.Execution.Error
import ParLang.Pattern.Split
import ParLang.Scope.Stack

/-!
# Processes

A running piece of program is a tree of what it asks of the world around it: `Process.perform` asks for
an effect and goes on with the reply, `Process.fork` has units run beside each other and goes on with
their results. The world and the order in which units take turns are not part of the tree; they are
chosen when it is run.

What belongs to one unit alone, its `Machine`, is passed along inside the tree. Every request shows it
as it is then, and so does the end, after a failure too. A unit also pauses, and says where it stands,
before each statement, each round of a loop and each call, so that nothing it does goes unseen.
-/

namespace ParLang

/-- A function as it was defined, with the number of scopes that were open there. A call sees only
those. -/
structure Function where
  definition : FunctionDef Stmt
  depth : Nat
deriving Inhabited

/-- What belongs to one unit of execution. -/
structure Machine where
  unit : UnitId
  /-- How many parallel blocks the unit has run. -/
  forks : Nat
  scopes : Scopes Value
  functions : NameMap Function
  channels : NameMap ConnectionId
deriving Inhabited

namespace Machine

/-- The main unit before it has run anything. -/
def initial : Machine :=
  ⟨[], 0, .new, .empty, .empty⟩

/-- The unit at place `i` of the parallel block that the unit comes to. It starts with copies of what
its parent has. -/
def child (m : Machine) (i : Nat) : Machine :=
  { m with unit := (m.forks, i) :: m.unit, forks := 0 }

end Machine

/-! ## Effects -/

/-- A question about arrays that changes nothing. -/
inductive Query where
  | length (h : Handle)
  | cell (h : Handle) (i : Nat)
  | items (h : Handle)

/-- The type of the answer. -/
abbrev Query.Reply : Query → Type
  | .length _ => Nat
  | .cell _ _ => Option Value
  | .items _ => List Value

/-- Where a unit stands when it pauses. -/
inductive Checkpoint where
  | statement (s : Stmt)
  /-- Before the condition of a loop. -/
  | round (condition : Expr)
  /-- Before a call from the given line, with its arguments evaluated. -/
  | call (line : Nat) (f : Function)

/-- Something that a process asks of the world. -/
inductive Effect where
  /-- Nothing, but other units may take a turn. -/
  | pause (here : Checkpoint)
  | inspect (q : Query)
  | alloc (items : List Value)
  | setCell (h : Handle) (i : Nat) (v : Value)
  | emit (line : String)
  | readLine
  | sleep (milliseconds : Nat)
  | connect (host : String) (port : Nat)
  | listen (host : String) (port : Nat)
  | unlisten (port : Nat)
  | send (connection : ConnectionId) (text : String)
  | receive (connection : ConnectionId)
  | shutdown (connection : ConnectionId)
  /-- A copy of a connection for another unit. -/
  | share (connection : ConnectionId)
  /-- The matches of a pattern in a text. -/
  | search (pattern text : String)

/-- The type of the reply. A cell is set or it is not there, a listener says its port, and what is no
pattern has no matches. -/
abbrev Effect.Reply : Effect → Type
  | .inspect q => q.Reply
  | .alloc _ => Handle
  | .setCell _ _ _ => Bool
  | .emit _ => Except IoFault Unit
  | .readLine => Except IoFault String
  | .connect _ _ => Except IoFault ConnectionId
  | .listen _ _ => Except IoFault Nat
  | .send _ _ => Except IoFault Unit
  | .receive _ => Except IoFault String
  | .share _ => Except IoFault Unit
  | .search _ _ => Option (List Match)
  | .pause _ | .sleep _ | .unlisten _ | .shutdown _ => Unit

/-- The effect is asked of what is around the program: the streams, the network and the matcher of
patterns. The others are about arrays and turns. -/
def Effect.isOutside : Effect → Bool
  | .pause _ | .inspect _ | .alloc _ | .setCell _ _ _ | .sleep _ => false
  | _ => true

/-- What a unit ends with. -/
abbrev UnitResult := Except RuntimeError Unit

/-- Units that are to run beside each other, each with a copy of what `machine` has and with so many
steps of depth. -/
structure Fork where
  budget : Nat
  machine : Machine
  units : List Stmt

/-- A tree of requests with results of type `α` at its ends. -/
inductive Process (α : Type) where
  | done (a : α)
  /-- Asks for an effect, with the unit's machine as it is then. -/
  | perform (m : Machine) (e : Effect) (k : e.Reply → Process α)
  | fork (f : Fork) (k : List UnitResult → Process α)
  /-- The depth budget ran out. -/
  | exhausted

namespace Process

/-- Goes on with `f` where the process ends. -/
def bind {α β : Type} (p : Process α) (f : α → Process β) : Process β :=
  match p with
  | .done a => f a
  | .perform m e k => .perform m e fun r => (k r).bind f
  | .fork u k => .fork u fun rs => (k rs).bind f
  | .exhausted => .exhausted

instance : Monad Process where
  pure := .done
  bind := bind

end Process

/-- The execution of a piece of program by a unit: it may fail, and it changes the unit's machine. -/
abbrev Exec (α : Type) := ExceptT RuntimeError (StateT Machine Process) α

namespace Exec

variable {α : Type}

/-- Asks for an effect. -/
def perform (e : Effect) : Exec e.Reply := fun m =>
  .perform m e fun r => .done (.ok r, m)

/-- Pauses at a checkpoint. -/
def pause (here : Checkpoint) : Exec Unit :=
  perform (.pause here)

/-- Asks a question about arrays. -/
def inspect (q : Query) : Exec q.Reply :=
  perform (.inspect q)

/-- The machine of the unit. -/
def machine : Exec Machine := fun m => .done (.ok m, m)

/-- Changes the machine of the unit. -/
def update (f : Machine → Machine) : Exec Unit := fun m => .done (.ok (), f m)

/-- Fails. -/
def fail (line : Nat) (cause : RuntimeError.Cause) : Exec α := fun m =>
  .done (.error ⟨cause, line⟩, m)

/-- Fails because a value does not fit its place. -/
def mismatch (line : Nat) (what : Mismatch) : Exec α :=
  fail line (.typeMismatch what)

/-- Gives up because the depth budget ran out. -/
def exhausted : Exec α := fun _ => .exhausted

/-- The reply of the world, or the failure of what was asked. -/
def orFail (line : Nat) (action : IoAction) : Except IoFault α → Exec α
  | .ok a => pure a
  | .error fault => fail line (.io action fault)

/-- Runs in a scope of its own, which is left however the run ends. -/
def inScope (x : Exec α) : Exec α := fun m =>
  Process.bind (x { m with scopes := m.scopes.push }) fun (result, m') =>
    .done (result, { m' with scopes := m'.scopes.pop })

/-- Runs with only the `depth` outermost scopes and an empty one in them; however the run ends, the
scopes that were hidden come back. -/
def inCall (depth : Nat) (x : Exec α) : Exec α := fun m =>
  let (frame, scopes) := m.scopes.enter depth
  Process.bind (x { m with scopes := scopes }) fun (result, m') =>
    .done (result, { m' with scopes := m'.scopes.leave frame })

/-- Binds a name in the innermost scope. -/
def declare (name : String) (v : Value) : Exec Unit :=
  update fun m => { m with scopes := m.scopes.declare name v }

/-- Has units run beside each other. -/
def fork (budget : Nat) (units : List Stmt) : Exec (List UnitResult) := fun m =>
  .fork ⟨budget, m, units⟩ fun results => .done (.ok results, { m with forks := m.forks + 1 })

/-- Makes an array. -/
def allocate (items : List Value) : Exec Value := do
  return .array (← perform (.alloc items))

end Exec

end ParLang
