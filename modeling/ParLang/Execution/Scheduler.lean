import ParLang.Execution.Task

/-!
# Running a task to its end

The scheduler lets the unit with the earliest clock go first, the first of them in source order. Of the
schedules that are possible it chooses the one in which every step takes the same short time and a
pause takes as long as it says. A server takes a connection as soon as one is there.
-/

namespace ParLang

namespace Task

/-- The earlier of two choices, the first if both are equally early. -/
def earlier : Option (Nat × List Nat) → Option (Nat × List Nat) → Option (Nat × List Nat)
  | some (c, way), some (d, way') => if d < c then some (d, way') else some (c, way)
  | some choice, none => some choice
  | none, choice? => choice?

mutual

/-- The clock of the unit that is to go next, and the way to it. -/
def next? (w : World) : Task → Option (Nat × List Nat)
  | .running clock (.perform m e _) => if w.canAnswer m.unit e then some (clock, []) else none
  | .running _ .exhausted => none
  | .running clock _ => some (clock, [])
  | .waiting _ units _ =>
    match results? units with
    | some (clock, _) => some (clock, [])
    | none => nextUnit? w 0 units
  | .finished _ _ _ => none

/-- The same among the units from place `i` on. -/
def nextUnit? (w : World) (i : Nat) : List Task → Option (Nat × List Nat)
  | [] => none
  | t :: rest =>
    earlier ((next? w t).map fun (clock, way) => (clock, i :: way)) (nextUnit? w (i + 1) rest)

end

/-- How a run ends. -/
inductive Outcome where
  | finished (result : UnitResult) (machine : Machine) (world : World)
  /-- No unit can go on: all wait, or a budget ran out. -/
  | stuck (world : World)

/-- Runs a task for up to so many steps. -/
def runSteps : Nat → Task → World → Outcome
  | 0, _, w => .stuck w
  | n + 1, t, w =>
    match w.accept? with
    | some w' => runSteps n t w'
    | none =>
      match t with
      | .finished _ result m => .finished result m w
      | _ =>
        match next? w t with
        | none => .stuck w
        | some (_, way) =>
          match stepAt w way t with
          | none => .stuck w
          | some (t', w') => runSteps n t' w'

end Task

end ParLang
