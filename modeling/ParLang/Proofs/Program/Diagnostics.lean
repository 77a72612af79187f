import ParLang.Proofs.Execution.Recast
import ParLang.Proofs.Typing.Relined

/-!
# Lines are for diagnostics only

Programs that differ in nothing but their lines are accepted or rejected for the same cause, are laid out
alike and run alike (`Program.lines_immaterial`). Each of them is compared with the same third program,
the one without lines: that is the program recast with the line zero in the place of every line, and it
runs on the machine whose functions have no lines either.
-/

namespace ParLang

/-- The function with all lines of its definition set to zero. -/
def Function.unlined (f : Function) : Function :=
  ⟨f.definition.unlined, f.depth⟩

/-- The machine with all lines of its functions set to zero. -/
def Machine.unlined (m : Machine) : Machine :=
  { m with functions := m.functions.map Function.unlined }

/-- The world after a run under a schedule, and what the program has ended with if it has: its result and
the machine, both without their lines. -/
def Program.observe (p : Program) (budget clock : Nat) (m : Machine) (turns : List Turn)
    (w : World) : Option (Option (Except RuntimeError.Cause Unit × Machine) × World) :=
  (Task.play turns (.start clock (Exec.runProgram budget p.statements) m) w).map fun (t, w') =>
    (t.outcome?.map fun (r, m') => (r.mapError (·.cause), m'.unlined), w')

/-! ## Without lines -/

/-- The same depth and the same scopes, but no lines. -/
def unlining : Recast :=
  ⟨fun _ => 0, rfl, 0, .same⟩

/-- What is recast without lines is the machine without lines. -/
theorem Machine.recast_unlining (m : Machine) : m.recast unlining = m.unlined := by
  have hfunction : Function.recast unlining = Function.unlined := by
    funext f
    rw [Function.recast, Function.unlined, unlining, f.definition.relined_zero, Nat.add_zero]
  rw [recast, unlined, hfunction, unlining, Scopes.raised_zero]

/-- A run can be told from a run of the program without lines by lines only. -/
theorem Program.observe_eq_unlined (p : Program) (budget clock : Nat) (m : Machine)
    (turns : List Turn) (w : World) :
    p.observe budget clock m turns w =
      (Task.play turns (.start clock (Exec.runProgram budget p.unlined.statements) m.unlined) w).map
        fun (t, w') => (t.outcome?.map fun (r, m') => (r.mapError (·.cause), m'), w') := by
  have hrecast : m.Recasts unlining m.unlined :=
    ⟨m.recast_unlining.symm, fun hraise => absurd hraise (Nat.lt_irrefl 0)⟩
  have hfit : unlining.budgets.Fit budget budget := rfl
  have hprocess := runProgram_recasts hfit p.statements m m.unlined hrecast
  have hstatements : relinedStmts unlining.line p.statements = p.unlined.statements :=
    relinedStmts_zero p.statements
  rw [hstatements] at hprocess
  have hlike : ∀ a b : UnitResult × Machine, unlining.Ends a b →
      (a.1.mapError (·.cause), a.2.unlined) = (b.1.mapError (·.cause), b.2) := by
    rintro ⟨r, m₁⟩ ⟨_, _⟩ ⟨rfl, rfl, -⟩
    rw [m₁.recast_unlining]
    cases r <;> rfl
  exact Task.InStep.map_play unlining.starts nofun nofun hlike (.running hprocess) turns w

/-- The checker's verdict does not depend on lines, but for the line it names. -/
theorem Program.check_unlined (p : Program) :
    p.unlined.check.mapError (·.cause) = p.check.mapError (·.cause) := by
  rw [← p.relined_zero, p.check_relined]
  cases p.check <;> rfl

/-- **Lines make a difference to diagnostics only.** -/
theorem Program.lines_immaterial {p q : Program} (h : p.unlined = q.unlined) :
    p.check.mapError (·.cause) = q.check.mapError (·.cause) ∧
    (∀ budget clock m turns w, p.observe budget clock m turns w = q.observe budget clock m turns w) ∧
    p.print = q.print := by
  refine ⟨?_, fun budget clock m turns w => ?_, ?_⟩
  · rw [← p.check_unlined, h, q.check_unlined]
  · rw [p.observe_eq_unlined, h, q.observe_eq_unlined]
  · rw [← p.print_unlined, h, q.print_unlined]

/-- A function that fails at the line, and a call of it at the line. -/
def failingAt (line : Nat) : Program :=
  ⟨[.function ⟨line, "read", [], .named "number", ⟨line, [
      .return line (.call line "to_number" [.text line "x"])]⟩⟩,
    .expr line (.call line "read" [])]⟩

/-- Two programs that differ in one line fail in the same way, each with its own line. -/
theorem lines_immaterial_failingAt :
    failingAt 1 ≠ failingAt 8 ∧ (failingAt 1).unlined = (failingAt 8).unlined ∧
    (failingAt 1).check.mapError (·.cause) = (failingAt 8).check.mapError (·.cause) ∧
    (∀ budget clock m turns w,
      (failingAt 1).observe budget clock m turns w = (failingAt 8).observe budget clock m turns w) ∧
    (failingAt 1).print = (failingAt 8).print :=
  ⟨by simp [failingAt], rfl, Program.lines_immaterial rfl⟩

end ParLang
