import ParLang.Diagnostic
import ParLang.Execution.Scheduler

/-!
# Sessions

A session runs programs one after another and keeps what they leave behind, also when one fails:
variables, functions, channels and the place in the input.
-/

namespace ParLang

/-- Why a source text did not run to its end. -/
inductive SessionError where
  | compile (e : CompileError)
  | runtime (e : RuntimeError)
  /-- No unit of the program could go on. -/
  | stuck
deriving Inhabited

/-- The failure in words. -/
def SessionError.message : SessionError → String
  | .compile e => e.message
  | .runtime e => e.message
  | .stuck => "no unit can go on"

/-- What programs leave behind. -/
structure Session where
  machine : Machine
  world : World

namespace Session

/-- The session before its first program. -/
def new (world : World) : Session :=
  ⟨.initial, world⟩

/-- How deep a run may go. -/
def depthBudget : Nat := 1000000000000000

/-- How many steps a run may take. -/
def stepLimit : Nat := 1000000000000000

/-- Runs a program. -/
def run (s : Session) (p : Program) : Except SessionError Unit × Session :=
  let task := Task.start 0 (Exec.runProgram depthBudget p.statements) s.machine
  match Task.runSteps stepLimit task s.world with
  | .finished (.ok ()) m w => (.ok (), ⟨m, w⟩)
  | .finished (.error e) m w => (.error (.runtime e), ⟨m, w⟩)
  | .stuck w => (.error .stuck, { s with world := w })

/-- Runs a source text, after checking it if `checked` holds. -/
def runSource (s : Session) (checked : Bool) (source : String) : Except SessionError Unit × Session :=
  let program := if checked then compile source else (parse source).mapError .parse
  match program with
  | .ok p => s.run p
  | .error e => (.error (.compile e), s)

end Session

end ParLang
