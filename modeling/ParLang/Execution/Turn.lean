import ParLang.Execution.Task

/-!
# Turns

Units that run beside each other take turns, and so does what is around them. A `Turn` is one thing that
happens in a run, and a list of turns is a schedule of the run, with all that the surroundings do.

* A unit does a step, and the world answers it as it stands.
* A unit does a step, and what it asks of the surroundings they answer as they like, with a failure or with
  anything else. So a connection can break at any point, and a peer can say whatever it wants.
* What is around the program changes: a server takes a connection and says so, something arrives.
* A unit of a parallel block is torn down in the middle of its run, at an effect, at a fork or where it goes
  on behind one. The main unit has nobody who would notice: with it the run is over.
-/

namespace ParLang

/-- What happens next in a run. -/
inductive Turn where
  | unit (way : List Nat)
  /-- The surroundings have their own reply to every effect that they can be asked for. -/
  | answered (way : List Nat) (reply : (e : Effect) → e.Reply)
  | outside (change : Surroundings → Surroundings)
  /-- The unit at place `i` below the main unit panics, or the one that the way leads to from there. -/
  | panic (i : Nat) (way : List Nat) (message : String)

namespace Task

/-- A step of the task's own unit in which the surroundings answer as they like. -/
def heed (reply : (e : Effect) → e.Reply) (w : World) : Task → Option (Task × World)
  | .running clock (.perform _ e k) =>
    if e.isOutside then some (.running (clock + e.duration) (k (reply e)), w) else none
  | _ => none

/-- The failure of a unit that panics. -/
def panicked (message : String) : RuntimeError :=
  ⟨.panic message, 0⟩

/-- The task's own unit panics. -/
def tearDown (message : String) (w : World) : Task → Option (Task × World)
  | .running clock (.perform m _ _) => some (.finished clock (.error (panicked message)) m, w)
  | .running clock (.fork f _) => some (.finished clock (.error (panicked message)) f.machine, w)
  | .waiting f units _ =>
    (results? units).map fun (clock, _) => (.finished clock (.error (panicked message)) f.machine, w)
  | _ => none

/-- One turn. -/
def take (turn : Turn) (t : Task) (w : World) : Option (Task × World) :=
  match turn with
  | .unit way => stepAt w way t
  | .answered way reply => actAt (heed reply w) way t
  | .outside change => some (t, w.around (change w.toSurroundings))
  | .panic i way message => actAt (tearDown message w) (i :: way) t

/-- The turns of a schedule, in order. -/
def play : List Turn → Task → World → Option (Task × World)
  | [], t, w => some (t, w)
  | turn :: turns, t, w => (take turn t w).bind fun (t', w') => play turns t' w'

end Task

end ParLang
