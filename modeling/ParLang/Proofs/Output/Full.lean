import ParLang.Proofs.Execution.Rooted
import ParLang.Proofs.Output.Interpreter
import ParLang.Proofs.Parallel.Independent

/-!
# Programs that fill the sink

A sink with too little room cuts the output of a program to its beginning, and the run ends there: nothing
in the program catches the failure of a write (`Program.output_cut`). This is about programs with one unit
and without channels. A unit of a parallel block that fails does not keep the others from writing, and a
server has a line of its own to write.
-/

namespace ParLang

/-- The program starts no units and opens no channels. -/
def Program.Lone (p : Program) : Prop :=
  ∀ s ∈ stmtsIn p.statements, s.isLone = true

namespace Program

/-- The expressions anywhere in the program. -/
def expressions (p : Program) : List Expr :=
  (stmtsIn p.statements).flatMap fun s => exprsIn s.operands

/-- What stands anywhere in the program. -/
def fragment (p : Program) : Fragment :=
  { Fragment.whole with
    stmt := fun s => stmtsIn [s] ⊆ stmtsIn p.statements
    expr := fun e => exprsIn [e] ⊆ p.expressions
    part := fun hs ht => List.Subset.trans (stmtsIn_part ht) hs
    operand := fun hs he _ hin =>
      List.mem_flatMap.mpr ⟨_, hs (mem_stmtsIn_self _), exprsIn_of_mem he hin⟩
    suboperand := fun he hsub => List.Subset.trans (exprsIn_operand hsub) he
    call := fun _ => trivial
    cell := fun _ => trivial
    server := fun _ => trivial
    client := fun _ => trivial }

variable {p : Program} {w w' : World} {limit? : Option Nat} {m : Machine} {r : UnitResult}
  {n depth turns : Nat}

/-- The statements of the program are in its own fragment. -/
theorem fragment_stmt {s : Stmt} (h : s ∈ p.statements) : p.fragment.stmt s := by
  intro t ht
  obtain ⟨s', hs', hin⟩ := mem_stmtsIn.mp ht
  exact mem_stmtsIn.mpr ⟨s, h, List.mem_singleton.mp hs' ▸ hin⟩

/-- A program without parallel blocks has none inside its statements. -/
theorem Lone.isLone (hp : p.Lone) {s : Stmt} (hs : p.fragment.stmt s) : s.isLone = true :=
  hp s (hs (mem_stmtsIn_self s))

/-- So it never forks. -/
theorem Lone.not_forks (hp : p.Lone) (units : List Stmt) : ¬p.fragment.Forks units := by
  rintro ⟨line, hpar⟩
  cases hp.isLone hpar

/-- The process of the program from the start, with so much depth. -/
def process (p : Program) (depth : Nat) : Process (UnitResult × Machine) :=
  Exec.runProgram depth p.statements .initial

/-- Runs the program from the start in so many turns of its unit, in the world with an empty sink that has
room for so many bytes. There is a result if the run ends in these turns. -/
def runInto (p : Program) (depth turns : Nat) (w : World) (limit? : Option Nat) :
    Option (UnitResult × Machine × World) :=
  match Task.play (Task.solo turns) (.running 0 (p.process depth)) { w with output := .new limit? } with
  | some (.finished _ r m, w') => some (r, m, w')
  | _ => none

/-- A run into a sink is a run of the main unit's task that has come to its end. -/
theorem runInto_eq_some : p.runInto depth turns w limit? = some (r, m, w') ↔ ∃ clock,
    Task.play (Task.solo turns) (.running 0 (p.process depth)) { w with output := .new limit? } =
      some (.finished clock r m, w') := by
  rw [runInto]
  constructor
  · intro h
    split at h
    · next clock _ _ _ hplay =>
      obtain ⟨rfl, rfl, rfl⟩ : _ ∧ _ ∧ _ := by simpa using h
      exact ⟨clock, hplay⟩
    · cases h
  · rintro ⟨clock, hplay⟩
    rw [hplay]

/-- In however many turns, the program comes to one end. -/
theorem runInto_unique {r' : UnitResult} {m' : Machine} {w₁ : World} {turns' : Nat}
    (h : p.runInto depth turns w limit? = some (r, m, w'))
    (h' : p.runInto depth turns' w limit? = some (r', m', w₁)) : r = r' ∧ m = m' ∧ w' = w₁ := by
  obtain ⟨clock, hplay⟩ := runInto_eq_some.mp h
  obtain ⟨clock', hplay'⟩ := runInto_eq_some.mp h'
  exact Task.play_solo_unique hplay hplay'

/-- A run takes a turn for each answer of the world and one for the end. -/
theorem runInto_of_finishes
    (h : (p.process depth).Finishes n { w with output := .new limit? } (r, m) w') :
    p.runInto depth (n + 1) w limit? = some (r, m, w') :=
  runInto_eq_some.mpr (Task.play_of_finishes 0 h)

/-- Conversely a run that has come to its end is a process that finishes. -/
theorem finishes_of_runInto (hp : p.Lone) (h : p.runInto depth turns w limit? = some (r, m, w')) :
    ∃ n, turns = n + 1 ∧ (p.process depth).Finishes n { w with output := .new limit? } (r, m) w' := by
  obtain ⟨clock, hplay⟩ := runInto_eq_some.mp h
  have hconfined : (p.process depth).Confined p.fragment [] (Exec.Closes p.fragment []) 0 Set.univ :=
    Exec.confined_runProgram (fun _ => fragment_stmt) [] 0 Set.univ .initial subset_rfl
      (p.fragment.fits_initial.mono (Set.subset_univ _))
  exact Task.finishes_of_play hp.not_forks hconfined hplay

/-- **A full sink cuts the output** to its beginning. If what a run prints fits, the run is the same. If not,
the sink keeps the first `limit` bytes of it, and the run fails, in no more turns, with the line of the call
of `print` that it has come to. -/
theorem output_cut (hp : p.Lone) (hrun : p.runInto depth turns w none = some (r, m, w'))
    (limit : Nat) :
    (w'.output.written.size ≤ limit →
      p.runInto depth turns w (some limit) = some (r, m, w'.limited limit)) ∧
    (limit < w'.output.written.size → ∃ turns' ≤ turns, ∃ line m' cut,
      p.runInto depth turns' w (some limit) = some (.error (.outOfRoom line), m', cut) ∧
      cut.output.written = w'.output.written.extract 0 limit ∧
      (p.process depth).ComesToPrint (· ∈ p.expressions) line
        { w with output := .new (some limit) } cut) := by
  obtain ⟨n, rfl, hfinishes⟩ := finishes_of_runInto hp hrun
  have hdefines : p.fragment.Defines .initial := by
    intro g f _ hf
    cases hf
  have hcuts : Exec.Cuts p.fragment (.printing p.fragment.expr) (Exec.runProgram depth p.statements) :=
    Exec.cuts_runProgram (fun _ => hp.isLone) fun _ => fragment_stmt
  have hcut := hcuts .initial hdefines _ _ _ _ rfl hfinishes
  constructor
  · intro hle
    exact runInto_of_finishes (hcut.fits limit hle)
  · intro hlt
    obtain ⟨k, w₁, hk, ⟨line, ⟨m', hfails⟩, hcomes⟩, hwritten⟩ := hcut.full limit (Nat.zero_le _) hlt
    have hcalls : ∀ e, p.fragment.expr e → e ∈ p.expressions := fun e he => he (mem_exprsIn_self e)
    exact ⟨k + 1, Nat.succ_le_succ hk, line, m', w₁, runInto_of_finishes hfails, hwritten,
      hcomes.imp hcalls⟩

/-- A line that is printed while the arguments of another call of `print` are evaluated. -/
def nestedPrints : Program where
  statements := [
    .function ⟨1, "inner", [], .named "string", ⟨1, [
      .expr 2 (.call 2 "print" [.text 2 "in"]),
      .return 3 (.text 3 "word")]⟩⟩,
    .expr 5 (.call 5 "print" [.text 5 "out", .call 5 "inner" []])]

/-- With room for one byte the outer call has nothing to write. -/
theorem output_cut_nestedPrints : ∃ m w' m' cut,
    nestedPrints.runInto 20 8 .deserted none = some (.ok (), m, w') ∧
      w'.output.written = "in\nout word\n".toUTF8 ∧
      nestedPrints.runInto 20 6 .deserted (some 1) = some (.error (.outOfRoom 2), m', cut) ∧
      cut.output.written = "i".toUTF8 := by
  have hlone : nestedPrints.Lone := List.all_eq_true.mp (by decide)
  obtain ⟨m, w', hrun⟩ : ∃ m w', nestedPrints.runInto 20 8 .deserted none = some (.ok (), m, w') :=
    ⟨_, _, by rfl⟩
  obtain ⟨m', cut, hcut⟩ : ∃ m' cut, nestedPrints.runInto 20 6 .deserted (some 1) =
      some (.error (.outOfRoom 2), m', cut) := ⟨_, _, by rfl⟩
  have hwritten : w'.output.written = "in\nout word\n".toUTF8 := by
    have hall : (nestedPrints.runInto 20 8 .deserted none).map (·.2.2.output.written) =
        some "in\nout word\n".toUTF8 := by decide +kernel
    rw [hrun] at hall
    exact Option.some.inj hall
  obtain ⟨turns', -, line, m₁, cut₁, hcut₁, hbeginning, -⟩ := (output_cut hlone hrun 1).2 (by
    rw [hwritten]
    decide)
  obtain ⟨-, -, rfl⟩ := runInto_unique hcut₁ hcut
  refine ⟨m, w', m', cut₁, hrun, hwritten, hcut, ?_⟩
  rw [hbeginning, hwritten]
  decide

end Program

end ParLang
