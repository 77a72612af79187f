import ParLang.Proofs.Execution.Recast
import ParLang.Proofs.Jumps.Checked
import ParLang.Proofs.Typing.Relined

/-!
# A program in a block of its own

Around an accepted program a `seq` block is transparent (`Program.wrapping_transparent`). The checker says
the same of both programs. The wrapped one runs on top of one more scope, so every depth at which a
function is defined and called is greater by one: it is the program recast (`Recast.wrapping`). Apart from
that a block stops at the first jump and the top of a program drops it, which is where the check is
needed: accepted statements at the top end normally.

The wrapped program pauses once more, in front of its block, and until then only what is around it does
anything. So a schedule of the program is one of the wrapped program with the turn of this pause in it
(`Turn.PausesFirst`).

The block takes depth of its own, and the deeper a statement is in it the more. So the wrapped program
gets more depth where its runs are to be those of the program, and the program has more where it is to
follow the wrapped one.
-/

namespace ParLang

variable {α β : Type}

/-- The program as the one statement of another program. -/
def Program.wrapped (line : Nat) (p : Program) : Program :=
  ⟨[.seq ⟨line, p.statements⟩]⟩

/-- Under the schedule and with enough depth, a run of the program from a fresh machine and the world `w`
comes to the world `w'`. If it has ended then, `r?` is its result. -/
def Program.RunsTo (p : Program) (turns : List Turn) (w w' : World) (r? : Option UnitResult) : Prop :=
  ∃ budget t, Task.play turns (.start 0 (Exec.runProgram budget p.statements) .initial) w =
    some (t, w') ∧ t.outcome?.map Prod.fst = r?

/-- The first schedule is the second one with a turn of the main unit more. It comes before all turns but
those of what is around the program, or is still to come. -/
inductive Turn.PausesFirst : List Turn → List Turn → Prop where
  | still : PausesFirst [] []
  | pause (turns : List Turn) : PausesFirst (.unit [] :: turns) turns
  | outside (change : Surroundings → Surroundings) {turns turns' : List Turn}
      (h : PausesFirst turns turns') :
      PausesFirst (.outside change :: turns) (.outside change :: turns')

/-! ## One more scope -/

/-- The same lines, but another scope around all others. -/
def Recast.wrapping (budgets : Budgets) : Recast :=
  ⟨id, rfl, 1, budgets⟩

/-- One more scope around everything makes no difference at the start, when nothing is declared. -/
theorem Machine.recasts_initial (b : Budgets) :
    Machine.initial.Recasts (.wrapping b) { Machine.initial with scopes := Scopes.new.push } :=
  ⟨rfl, fun _ _ _ hf => nomatch hf⟩

/-- How much depth the statements `ss` get in a block, beside the depth of each at the top. -/
def Budgets.FitAll (b : Budgets) (n n' : Nat) (ss : List Stmt) : Prop :=
  b = .more ∧ n + ss.length < n' ∨ b = .fewer ∧ n' ≤ n

/-- What fits no depth at all fits only because the other side has less. -/
theorem Budgets.FitAll.eq_fewer {b : Budgets} {n : Nat} {ss : List Stmt} (h : b.FitAll n 0 ss) :
    b = .fewer := by
  obtain ⟨-, hlt⟩ | ⟨hfewer, -⟩ := h
  · exact absurd hlt (Nat.not_lt_zero _)
  · exact hfewer

/-- Depths that fit a list of statements fit the first of them and the others. -/
theorem Budgets.FitAll.cons {b : Budgets} {n n' : Nat} {s : Stmt} {ss : List Stmt}
    (h : b.FitAll n (n' + 1) (s :: ss)) : b.Fit n n' ∧ b.FitAll n n' ss := by
  rw [FitAll, List.length_cons] at h
  obtain ⟨rfl, hlt⟩ | ⟨rfl, hle⟩ := h
  · exact ⟨show n ≤ n' by omega, .inl ⟨rfl, by omega⟩⟩
  · exact ⟨show n' ≤ n by omega, .inr ⟨rfl, by omega⟩⟩

namespace Exec

/-- Moving no line changes no result. -/
theorem mapError_relined_id (r : Except RuntimeError α) :
    r.mapError (RuntimeError.relined id) = r := by
  cases r with
  | ok a => rfl
  | error e => rfl

/-- What only drops a result does so before a scope is left as well as behind. -/
theorem inScope_drop (x : Exec α) :
    (inScope x >>= fun _ => pure ()) = inScope (x >>= fun _ => pure ()) := by
  funext m
  rw [bind_apply, inScope, inScope, bind_apply, Process.bind_assoc, Process.bind_assoc]
  exact Process.bind_congr (fun _ _ => rfl) fun _ _ => rfl

end Exec

open Exec (Recasts Gives)

/-- **Statements at the top and in a block.** If every statement ends normally, the statements run in a
block as they do at the top of a program. -/
theorem runProgram_recasts_runAll {c : Recast} {n n' : Nat} {ss : List Stmt}
    (hfit : c.budgets.FitAll n n' ss) (hnormal : ∀ s ∈ ss, Gives (· = .normal) (Exec.run n s)) :
    Recasts c (Exec.runProgram n ss)
      (Exec.runAll n' (relinedStmts c.line ss) >>= fun _ => pure ()) := by
  induction ss generalizing n' with
  | nil =>
    cases n' with
    | zero => exact .second hfit.eq_fewer _
    | succ n' => exact .pure ()
  | cons s ss ih =>
    cases n' with
    | zero => exact .second hfit.eq_fewer _
    | succ n' =>
      obtain ⟨hfirst, hrest⟩ := hfit.cons
      have hs : Gives (· = .normal) (Exec.run n s) := hnormal s List.mem_cons_self
      rw [relinedStmts, Exec.runAll, Interpreter.runAll, Exec.bind_assoc]
      refine ((recastsAt hfirst).run s).bind_ends hs ?_
      rintro _ rfl
      exact ih hrest fun t ht => hnormal t (List.mem_cons_of_mem s ht)

/-- The statements of a program on a fresh machine, and in a block of their own. -/
theorem inStep_wrapped {b : Budgets} {n n' : Nat} {ss : List Stmt} (hfit : b.FitAll n n' ss)
    (hnormal : ∀ s ∈ ss, Gives (· = .normal) (Exec.run n s)) :
    (Exec.runProgram n ss .initial).InStep (Recast.wrapping b).likeness (fun a a' => a.1 = a'.1)
      ((Exec.inScope (Exec.runAll n' ss) >>= fun _ => pure ()) .initial) := by
  have hbody := runProgram_recasts_runAll (c := .wrapping b) hfit hnormal _ _
    (Machine.recasts_initial b)
  have hlines : relinedStmts (Recast.wrapping b).line ss = ss := relinedStmts_id ss
  rw [hlines] at hbody
  rw [Exec.inScope_drop, Exec.inScope, ← Process.bind_done (Exec.runProgram n ss .initial)]
  refine hbody.bind ?_
  rintro ⟨r, m⟩ ⟨_, m'⟩ ⟨rfl, -⟩
  exact .done (Exec.mapError_relined_id r).symm

/-! ## Runs -/

/-- The wrapped program pauses in front of its block. -/
theorem Program.runProgram_wrapped (p : Program) (line n : Nat) (m : Machine) :
    Exec.runProgram (n + 1) (p.wrapped line).statements m =
      .perform m (.pause (.statement (.seq ⟨line, p.statements⟩))) fun _ =>
        (Exec.inScope (Exec.runAll n p.statements) >>= fun _ => pure ()) m := by
  show ((Exec.pause (.statement (.seq ⟨line, p.statements⟩)) >>= fun _ =>
    Exec.inScope (Exec.runAll n p.statements)) >>= fun _ => pure ()) m = _
  rw [Exec.bind_assoc]
  rfl

/-- Until the wrapped program has paused, nothing else happens but around it. -/
theorem Program.take_wrapped {p : Program} {line budget : Nat} {turn : Turn} {w w' : World} {t : Task}
    (h : Task.take turn (.start 0 (Exec.runProgram budget (p.wrapped line).statements) .initial) w =
      some (t, w')) :
    (∃ change, turn = .outside change) ∨ turn = .unit [] ∧ ∃ n, budget = n + 1 := by
  cases turn with
  | outside change => exact .inl ⟨change, rfl⟩
  | unit way =>
    cases way with
    | cons i way => exact absurd h.symm (Option.some_ne_none _)
    | nil =>
      cases budget with
      | zero => exact absurd h.symm (Option.some_ne_none _)
      | succ n => exact .inr ⟨rfl, n, rfl⟩
  | answered way reply =>
    cases way with
    | cons i way => exact absurd h.symm (Option.some_ne_none _)
    | nil =>
      cases budget with
      | zero => exact absurd h.symm (Option.some_ne_none _)
      | succ n =>
        rw [Task.take, Task.actAt, Task.start, p.runProgram_wrapped] at h
        exact absurd h.symm (Option.some_ne_none _)
  | panic i way message => exact absurd h.symm (Option.some_ne_none _)

/-- Behind the pause is the block. -/
theorem Program.play_pause {p : Program} {line n : Nat} {turns : List Turn} {w : World} :
    Task.play (.unit [] :: turns)
        (.start 0 (Exec.runProgram (n + 1) (p.wrapped line).statements) .initial) w =
      Task.play turns
        (.running 1 ((Exec.inScope (Exec.runAll n p.statements) >>= fun _ => pure ()) .initial)) w := by
  rw [Task.start, p.runProgram_wrapped]
  rfl

/-- Every statement at the top of an accepted program ends normally. -/
theorem Program.gives_normal {p : Program} (hcheck : p.check = .ok ()) (n : Nat) :
    ∀ s ∈ p.statements, Gives (· = .normal) (Exec.run n s) := by
  intro s hs
  have hstatements : Check.statements p.statements .initial =
      (.ok (), (Check.statements p.statements .initial).2) :=
    Prod.ext hcheck rfl
  obtain ⟨c₁, c₂, hstatement, hrestores⟩ := Check.statement_of_mem hstatements hs
  exact Exec.gives_normal hstatement hrestores.loopDepth hrestores.function? n

variable {p : Program} {turns : List Turn} {w w' : World} {r? : Option UnitResult}

/-- **Depth makes no difference but whether there is enough.** Two runs under one schedule come to the same
world and the same result. -/
theorem Program.RunsTo.unique {w₁ w₂ : World} {r₁? r₂? : Option UnitResult}
    (h₁ : p.RunsTo turns w w₁ r₁?) (h₂ : p.RunsTo turns w w₂ r₂?) : w₁ = w₂ ∧ r₁? = r₂? := by
  have hdeeper : ∀ {n n' t w'}, n ≤ n' →
      Task.play turns (.start 0 (Exec.runProgram n p.statements) .initial) w = some (t, w') →
      ∃ t', Task.play turns (.start 0 (Exec.runProgram n' p.statements) .initial) w =
        some (t', w') ∧ t.outcome?.map Prod.fst = t'.outcome?.map Prod.fst := by
    intro n n' t w' hle hrun
    have hprogram := runProgram_recasts (c := ⟨id, rfl, 0, .more⟩) hle p.statements .initial .initial
      ⟨rfl, fun hraise => absurd hraise (Nat.lt_irrefl 0)⟩
    rw [relinedStmts_id] at hprogram
    obtain ⟨t', hrun', ht⟩ := Task.InStep.play (Recast.starts ⟨id, rfl, 0, .more⟩) nofun
      (.running (hprogram.imp fun a a' h => (h.1.trans (Exec.mapError_relined_id a.1)).symm)) hrun
    exact ⟨t', hrun', ht.map_outcome? fun _ _ h => h⟩
  obtain ⟨n₁, t₁, hrun₁, rfl⟩ := h₁
  obtain ⟨n₂, t₂, hrun₂, rfl⟩ := h₂
  obtain ⟨t, hrun, ht₁⟩ := hdeeper (Nat.le_max_left n₁ n₂) hrun₁
  obtain ⟨t', hrun', ht₂⟩ := hdeeper (Nat.le_max_right n₁ n₂) hrun₂
  obtain ⟨rfl, rfl⟩ := Prod.mk.inj (Option.some.inj (hrun.symm.trans hrun'))
  exact ⟨rfl, ht₁.trans ht₂.symm⟩

/-- Nothing has happened yet. -/
theorem Program.runsTo_nil : p.RunsTo [] w w' r? ↔ w' = w ∧ r? = none := by
  constructor
  · rintro ⟨n, t, hrun, rfl⟩
    obtain ⟨rfl, rfl⟩ := Prod.mk.inj (Option.some.inj hrun)
    exact ⟨rfl, rfl⟩
  · rintro ⟨rfl, rfl⟩
    exact ⟨0, _, rfl, rfl⟩

/-- A change around a program that has not begun is one of the world that it begins in. -/
theorem Program.runsTo_outside (p : Program) (change : Surroundings → Surroundings) (turns : List Turn) :
    p.RunsTo (.outside change :: turns) w w' r? ↔
      p.RunsTo turns (w.around (change w.toSurroundings)) w' r? :=
  Iff.rfl

/-- A run of an accepted program is one of the wrapped program, behind its pause. -/
theorem Program.RunsTo.wrapped (hcheck : p.check = .ok ()) (line : Nat)
    (h : p.RunsTo turns w w' r?) : (p.wrapped line).RunsTo (.unit [] :: turns) w w' r? := by
  obtain ⟨n, t, hrun, hresult⟩ := h
  have hfit : Budgets.more.FitAll n (n + p.statements.length + 1) p.statements :=
    .inl ⟨rfl, Nat.lt_succ_self _⟩
  have hinstep := inStep_wrapped hfit (p.gives_normal hcheck n)
  obtain ⟨t', hrun', ht⟩ := Task.InStep.play (Recast.starts (.wrapping .more)) nofun
    (.running hinstep) hrun
  refine ⟨n + p.statements.length + 2, t', Program.play_pause.trans hrun', ?_⟩
  exact (ht.map_outcome? fun _ _ h => h).symm.trans hresult

/-- Behind its pause a run of the wrapped program goes on as one of the program. -/
theorem Program.RunsTo.of_wrapped (hcheck : p.check = .ok ()) {line : Nat}
    (h : (p.wrapped line).RunsTo (.unit [] :: turns) w w' r?) : p.RunsTo turns w w' r? := by
  obtain ⟨budget, t', hrun', hresult⟩ := h
  cases budget with
  | zero => exact nomatch hrun'
  | succ n =>
    rw [Program.play_pause] at hrun'
    have hfit : Budgets.fewer.FitAll n n p.statements := .inr ⟨rfl, Nat.le_refl n⟩
    have hinstep := inStep_wrapped hfit (p.gives_normal hcheck n)
    obtain ⟨t, hrun, ht⟩ := Task.InStep.play_back (Recast.starts (.wrapping .fewer)) nofun
      (.running hinstep) hrun'
    exact ⟨n, t, hrun, (ht.map_outcome? fun _ _ h => h).trans hresult⟩

/-- **A block around a program is transparent.** The checker says the same of the program and of the
wrapped one. If it accepts them, the runs of the wrapped program are those of the program with a pause
more: whatever the units and the surroundings do, the world is the same at every moment, and so is the
result. -/
theorem Program.wrapping_transparent (p : Program) (line : Nat) :
    (p.wrapped line).check = p.check ∧
    (p.check = .ok () → ∀ turns w w' r?, (p.wrapped line).RunsTo turns w w' r? ↔
      ∃ turns', Turn.PausesFirst turns turns' ∧ p.RunsTo turns' w w' r?) := by
  refine ⟨p.check_seq line, fun hcheck turns w w' r? => ⟨fun h => ?_, ?_⟩⟩
  · induction turns generalizing w with
    | nil => exact ⟨[], .still, Program.runsTo_nil.mpr (Program.runsTo_nil.mp h)⟩
    | cons turn turns ih =>
      obtain ⟨budget, t, hrun, -⟩ := id h
      obtain ⟨t₁, w₁, htake, -⟩ := Task.play_cons.mp hrun
      obtain ⟨change, rfl⟩ | ⟨rfl, -⟩ := Program.take_wrapped htake
      · obtain ⟨turns', hpauses, hruns⟩ := ih _ ((Program.runsTo_outside _ _ _).mp h)
        exact ⟨_, .outside change hpauses, (p.runsTo_outside _ _).mpr hruns⟩
      · exact ⟨turns, .pause turns, h.of_wrapped hcheck⟩
  · rintro ⟨turns', hpauses, hruns⟩
    induction hpauses generalizing w with
    | still => exact Program.runsTo_nil.mpr (Program.runsTo_nil.mp hruns)
    | pause turns => exact hruns.wrapped hcheck line
    | outside change _ ih =>
      exact (Program.runsTo_outside _ _ _).mpr (ih _ ((p.runsTo_outside _ _).mp hruns))

/-- A function that changes a variable of the program and calls itself, called by one of two units. -/
def echoing : Program where
  statements := [
    .declare 1 "said" (.named "string") (.text 1 "hello"),
    .function ⟨2, "echo", [⟨2, "again", .named "bool", none⟩], .named "string", ⟨2, [
      .assign ⟨3, .variable 3 "said", .binary 3 .add (.ident 3 "said") (.text 3 "!")⟩,
      .branch 4 (.ident 4 "again") ⟨4, [.return 5 (.call 5 "echo" [.truth 5 false])]⟩ none,
      .return 6 (.ident 6 "said")]⟩⟩,
    .par ⟨7, [
      .expr 8 (.call 8 "print" [.call 8 "echo" [.truth 8 true]]),
      .expr 9 (.call 9 "print" [.ident 9 "said"])]⟩]

/-- A program that prints what it reads, and a server it talks to: each run has its counterpart around which
the block stands, and the other way round. -/
theorem wrapping_transparent_echoing :
    (∃ turns w', echoing.RunsTo turns .deserted w' (some (.ok ()))) ∧
    echoing.check = .ok () ∧ (echoing.wrapped 1).check = echoing.check ∧
    ∀ turns w w' r?, (echoing.wrapped 1).RunsTo turns w w' r? ↔
      ∃ turns', Turn.PausesFirst turns turns' ∧ echoing.RunsTo turns' w w' r? := by
  have hcheck : echoing.check = .ok () := by decide +kernel
  refine ⟨?_, hcheck, (echoing.wrapping_transparent 1).1, (echoing.wrapping_transparent 1).2 hcheck⟩
  have hends : (Task.runSteps 100
      (.start 0 (Exec.runProgram 20 echoing.statements) .initial) .deserted).isSuccess := by
    decide +kernel
  obtain ⟨clock, m, w, hreaches⟩ := Task.exists_reaches_of_isSuccess hends
  obtain ⟨turns, hplay⟩ := Task.exists_play_of_reaches hreaches
  exact ⟨turns, w, 20, _, hplay, rfl⟩

end ParLang
