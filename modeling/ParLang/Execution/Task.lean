import ParLang.Execution.Evaluator
import ParLang.World.Basic

/-!
# Units that run beside each other

A `Task` is a unit in the middle of its run, together with the units it waits for. One step of a task
is one effect of one of its units, and which unit that is, is the choice of whoever runs it: `stepAt`
takes the way to a unit and lets that unit do one step. A run under a schedule is a run under a list of
such ways.

Each unit has a clock, which steps and pauses move forward. It has no influence on what a step does;
a scheduler may go by it.
-/

namespace ParLang

/-- A unit with the units it waits for. -/
inductive Task where
  | running (clock : Nat) (process : Process (UnitResult × Machine))
  /-- The unit has come to a fork and waits for the units of it. -/
  | waiting (f : Fork) (units : List Task) (k : List UnitResult → Process (UnitResult × Machine))
  | finished (clock : Nat) (result : UnitResult) (machine : Machine)

/-- How far an effect moves the clock of the unit that asks for it. A millisecond is long, compared
with a step. -/
def Effect.duration : Effect → Nat
  | .sleep milliseconds => 1 + 10000 * milliseconds
  | _ => 1

namespace Task

/-- The task that runs a piece of program. -/
def start (clock : Nat) (x : Exec Unit) (m : Machine) : Task :=
  .running clock (x m)

/-- The units of a fork, from place `i` on. -/
def unitsFrom (clock : Nat) (f : Fork) : Nat → List Stmt → List Task
  | _, [] => []
  | i, s :: rest =>
    .start clock (Exec.runUnit f.budget s) (f.machine.child i) :: unitsFrom clock f (i + 1) rest

/-- The latest clock and the results of units that have all finished. -/
def results? : List Task → Option (Nat × List UnitResult)
  | [] => some (0, [])
  | .finished clock result _ :: rest =>
    (results? rest).map fun (latest, results) => (max clock latest, result :: results)
  | _ :: _ => none

/-- One step of a running unit. A unit that must wait for the world, and one whose budget ran out,
does none. -/
def stepProcess (w : World) (clock : Nat) :
    Process (UnitResult × Machine) → Option (Task × World)
  | .done (result, m) => some (.finished clock result m, w)
  | .perform m e k =>
    if w.canAnswer m.unit e then
      let (reply, w') := w.answer m.unit e
      some (.running (clock + e.duration) (k reply), w')
    else none
  | .fork f k => some (.waiting f (unitsFrom clock f 0 f.units) k, w)
  | .exhausted => none

/-- One step of the task's own unit, which goes on when all units that it waits for have finished. -/
def step (w : World) : Task → Option (Task × World)
  | .running clock p => stepProcess w clock p
  | .waiting _ units k =>
    (results? units).map fun (clock, results) => (.running clock (k results), w)
  | .finished _ _ _ => none

/-- Has the unit act that the way leads to. The empty way leads to the task's own unit. -/
def actAt {α : Type} (act : Task → Option (Task × α)) : List Nat → Task → Option (Task × α)
  | [], t => act t
  | i :: way, .waiting f units k => do
    let u ← units[i]?
    let (u', a) ← actAt act way u
    return (.waiting f (units.set i u') k, a)
  | _ :: _, _ => none

/-- One step of the unit that the way leads to. -/
def stepAt (w : World) (way : List Nat) (t : Task) : Option (Task × World) :=
  actAt (step w) way t

/-- The effect that the unit at the end of the way asks for next. -/
def effectAt? : List Nat → Task → Option Effect
  | [], .running _ (.perform _ e _) => some e
  | i :: way, .waiting _ units _ => units[i]?.bind (effectAt? way)
  | _, _ => none

end Task

end ParLang
