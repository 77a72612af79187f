import ParLang.Proofs.Channels.Places

/-!
# Running with a log of channels

`Logged` is the traced interpreter with a log of the channels that a unit has opened and closed, each
under its name. What a unit does with a channel goes by the log, and the table of the machine is only
kept up:

* where the checker resolves the channel of a `send` to a `c_channel`, the line is sent on the connection
  that was opened last under the name of this channel, in whatever scope, and the `send` fails if the name
  was closed since,
* opening a channel closes the connection that was opened last under its name, if none was closed since,
* closing a name closes the connection that was opened last under it.

A unit of a parallel block starts with the log of the unit that it comes from. A channel that the program
names in another way, by a text that it has computed, is looked up in the table.
-/

namespace ParLang

/-- What happens to the name of a channel. -/
inductive ChannelEvent where
  | opened (name : String) (connection : ConnectionId)
  | closed (name : String)

/-- What has happened to channels, the last event first. -/
abbrev ChannelLog := List ChannelEvent

/-- The connection that was opened last under the name, if the name was not closed since. -/
def ChannelLog.current? (name : String) : ChannelLog → Option ConnectionId
  | [] => none
  | .opened x connection :: rest => if x = name then some connection else current? name rest
  | .closed x :: rest => if x = name then none else current? name rest

/-- A traced execution that keeps a log of channels. -/
abbrev Logged (α : Type) := StateT ChannelLog Traced α

namespace Logged

variable {α : Type}

/-- A traced execution that does nothing with channels. -/
def lift (x : Traced α) : Logged α :=
  StateT.lift x

/-- An operation that does nothing with channels. -/
def op (x : Exec α) : Logged α :=
  lift (Traced.lift x)

/-- The traced execution without the log. -/
def unlogged (x : Logged α) (log : ChannelLog) : Traced α := do
  return (← x log).1

/-- The execution without what it writes down. -/
def plain (x : Logged α) (log : ChannelLog) (tr : Trace) : Exec α :=
  Traced.plain (unlogged x log) tr

/-- Writes down what happens to a channel. -/
def note (e : ChannelEvent) : Logged Unit :=
  modify fun log => e :: log

/-- Runs in a scope of its own. -/
def inScope (x : Logged α) : Logged α := fun log =>
  Traced.inScope (x log)

/-- Runs with only the `depth` outermost scopes. -/
def inCall (depth : Nat) (x : Logged α) : Logged α := fun log =>
  Traced.inCall depth (x log)

/-- Has units run beside each other, if what is asked of them holds. -/
noncomputable def forkIf (budget : Nat) (units : List Stmt)
    (ok : ChannelLog → Trace → Machine → Prop) : Logged (List UnitResult) := fun log =>
  lift (Traced.forkIf budget units (ok log)) log

/-! ## Channels -/

/-- Writes down a connection under a name, in place of the one that is open under it. -/
def replace (name : String) (connection : ConnectionId) : Logged Unit := do
  let previous? := (← get).current? name
  op (Exec.update fun m => { m with channels := m.channels.insert name connection })
  note (.opened name connection)
  match previous? with
  | some previous => op (Exec.perform (.shutdown previous))
  | none => return ()

/-- Opens a channel under a name. -/
def attach (line : Nat) (name host : String) (port : Nat) : Logged Unit := do
  let reply ← op (Exec.perform (.connect host port))
  let connection ← op (Exec.orFail line (.connect host port) reply)
  replace name connection

/-- Sends a line on the channel that is open under a name, and waits for a line in return. -/
def sendLine (line : Nat) (name message : String) : Logged Value := do
  match (← get).current? name with
  | none => op (Exec.fail line (.undefinedChannel name))
  | some connection => op (Exec.exchange line name connection message)

/-- Closes the channel that is open under a name. -/
def closeChannel (name : String) : Logged Value := do
  match (← get).current? name with
  | none => return .void
  | some connection =>
    op (Exec.update fun m => { m with channels := m.channels.erase name })
    note (.closed name)
    op (Exec.perform (.shutdown connection))
    return .void

/-- The channel that the checker resolves the first of the arguments to, if it does. -/
def channelOf? (p : Program) (S : Static) : List Expr → Option String
  | .ident _ x :: _ => p.channelAt? S x
  | _ => none

/-- Calls a built-in function. The channel that a line is sent on is the one that the checker resolves
the first argument to, if it does. -/
def callBuiltin (channel? : Option String) (depth : Nat) (callee : Builtin) (args : List Value)
    (line : Nat) : Logged Value :=
  match callee, channel?, args with
  | .send, some name, [_, message] => do
    let message ← op (Exec.textArgument callee line message)
    sendLine line name message
  | .close, _, [channel] => do
    let name ← op (Exec.textArgument callee line channel)
    closeChannel name
  | _, _, _ => op (Exec.callBuiltin depth callee args line)

/-! ## The interpreter -/

/-- The traced interpreter with a log of channels. What is asked of the units of a parallel block is that
they do not give up either, from the log as it is. -/
noncomputable def interpreter (p : Program) : Interpreter Logged Traced.Place Closure where
  lift := op
  inScope := inScope
  inCall := inCall
  go := Traced.Place.go
  lookUp P line x := lift ((Traced.interpreter .names).lookUp P line x)
  store P line x v := lift ((Traced.interpreter .names).store P line x v)
  declare P x type v := lift ((Traced.interpreter .names).declare P x type v)
  define P f := lift ((Traced.interpreter .names).define P f)
  callee P line name := lift ((Traced.interpreter .names).callee P line name)
  function := Closure.function
  origin := (Traced.interpreter .names).origin
  callBuiltin P args := callBuiltin (channelOf? p P.static args)
  attach := attach
  fork P budget units run :=
    forkIf budget units fun log tr m => ∀ i s, units[i]? = some s → ∀ j,
      plain (run (P.go (.unit i)) s) log tr (m.child j) = Exec.runUnit budget s (m.child j)

/-- Runs a program. -/
noncomputable def runProgram (p : Program) (budget : Nat) : Logged Unit :=
  (interpreter p).runProgram budget .initial p.statements

end Logged

end ParLang
