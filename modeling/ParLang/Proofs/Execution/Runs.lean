import ParLang.Execution.Scheduler
import ParLang.Execution.Turn

/-!
# Runs

What a run can come to by turns of its units and of what is around them (`Task.Reaches`), and what can be
seen of a task on the way: the machines that its units show, the requests that they make next, and the
failures with which they ended. The run that the scheduler makes is one of these runs
(`Task.reaches_of_runSteps`).

A turn of a unit changes this unit and leaves all others as they are (`Task.actAt_cons_eq_some`).
-/

namespace ParLang

/-- Nobody is there: nothing to read, no way to a host, and no pattern is one. -/
def Surroundings.deserted : Surroundings :=
  ⟨.new none, [], .new (fun _ => false) (fun _ => false) [] 0, fun _ _ => none⟩

/-- A world with nobody else in it. -/
def World.deserted : World :=
  ⟨.deserted, .empty⟩

namespace Task

variable {α : Type} {act : Task → Option (Task × α)} {a : α} {t t' : Task} {w w' : World} {f : Fork}
  {units : List Task} {k : List UnitResult → Process (UnitResult × Machine)} {i : Nat} {way : List Nat}

/-! ## One turn -/

/-- Only a task that waits for units lets one of them act. -/
theorem exists_of_actAt_cons (h : actAt act (i :: way) t = some (t', a)) :
    ∃ f units k u u', t = .waiting f units k ∧ units[i]? = some u ∧
      actAt act way u = some (u', a) ∧ t' = .waiting f (units.set i u') k := by
  cases t with
  | waiting f units k =>
    obtain ⟨u, hu, h⟩ := Option.bind_eq_some_iff.mp h
    obtain ⟨⟨u', a'⟩, hact, h⟩ := Option.bind_eq_some_iff.mp h
    obtain ⟨rfl, rfl⟩ := Prod.mk.inj (Option.some.inj h)
    exact ⟨f, units, k, u, u', rfl, hu, hact, rfl⟩
  | running => cases h
  | finished => cases h

/-- One turn of a unit in a block changes the task of that unit and nothing else of the block. -/
theorem actAt_cons_eq_some :
    actAt act (i :: way) (.waiting f units k) = some (t', a) ↔
      ∃ u u', units[i]? = some u ∧ actAt act way u = some (u', a) ∧
        t' = .waiting f (units.set i u') k := by
  constructor
  · intro h
    obtain ⟨_, _, _, u, u', heq, hu, hact, rfl⟩ := exists_of_actAt_cons h
    obtain ⟨rfl, rfl, rfl⟩ := Task.waiting.inj heq
    exact ⟨u, u', hu, hact, rfl⟩
  · rintro ⟨u, u', hu, hact, rfl⟩
    simp [actAt, hu, hact]

/-- The surroundings answer only what they can be asked for. -/
theorem heed_eq_some {reply : (e : Effect) → e.Reply} :
    heed reply w t = some (t', w') ↔ ∃ clock m e c, t = .running clock (.perform m e c) ∧
      e.isOutside = true ∧ t' = .running (clock + e.duration) (c (reply e)) ∧ w' = w := by
  constructor
  · intro h
    unfold heed at h
    split at h
    · split at h
      · next houtside =>
        obtain ⟨rfl, rfl⟩ := Prod.mk.inj (Option.some.inj h)
        exact ⟨_, _, _, _, rfl, houtside, rfl, rfl⟩
      · cases h
    · cases h
  · rintro ⟨clock, m, e, c, rfl, houtside, rfl, rfl⟩
    rw [heed, if_pos houtside]

/-! ## What can be seen of a task -/

/-- A machine that one of the units shows: with a request, while it waits or at its end. -/
inductive Shows : Task → Machine → Prop where
  | asking {clock m e c} : Shows (.running clock (.perform m e c)) m
  | forking {clock f c} : Shows (.running clock (.fork f c)) f.machine
  | ending {clock r m} : Shows (.running clock (.done (r, m))) m
  | waiting {f units c} : Shows (.waiting f units c) f.machine
  | finished {clock r m} : Shows (.finished clock r m) m
  | unit {f units c u m} (hu : u ∈ units) (h : Shows u m) : Shows (.waiting f units c) m

/-- A failure with which one of the units ended. -/
inductive Fails : Task → RuntimeError → Prop where
  | ending {clock e m} : Fails (.running clock (.done (.error e, m))) e
  | finished {clock e m} : Fails (.finished clock (.error e) m) e
  | unit {f units c u e} (hu : u ∈ units) (h : Fails u e) : Fails (.waiting f units c) e

/-- A request that one of the units makes next, with its machine as it is then. -/
inductive Asks : Task → Machine → Effect → Prop where
  | asking {clock m e c} : Asks (.running clock (.perform m e c)) m e
  | unit {f units c u m e} (hu : u ∈ units) (h : Asks u m e) : Asks (.waiting f units c) m e

/-- A unit that panics ends with the machine that it showed. -/
theorem exists_of_tearDown {message : String} (h : tearDown message w t = some (t', w')) :
    ∃ clock m, t.Shows m ∧ t' = .finished clock (.error (panicked message)) m ∧ w' = w := by
  unfold tearDown at h
  split at h
  · obtain ⟨rfl, rfl⟩ := Prod.mk.inj (Option.some.inj h)
    exact ⟨_, _, .asking, rfl, rfl⟩
  · obtain ⟨rfl, rfl⟩ := Prod.mk.inj (Option.some.inj h)
    exact ⟨_, _, .forking, rfl, rfl⟩
  · obtain ⟨⟨clock, rs⟩, -, heq⟩ := Option.map_eq_some_iff.mp h
    obtain ⟨rfl, rfl⟩ := Prod.mk.inj heq
    exact ⟨_, _, .waiting, rfl, rfl⟩
  · cases h

/-! ## Runs -/

/-- The task and the world that a run comes to in some turns. -/
inductive Reaches (t : Task) (w : World) : Task → World → Prop where
  | start : Reaches t w t w
  | turn {t₁ t₂ : Task} {w₁ w₂ : World} (turn : Turn) (h : Reaches t w t₁ w₁)
      (htake : take turn t₁ w₁ = some (t₂, w₂)) : Reaches t w t₂ w₂

/-- Runs compose. -/
theorem Reaches.trans {t₁ t₂ : Task} {w₁ w₂ : World} (h : Reaches t w t₁ w₁)
    (h' : Reaches t₁ w₁ t₂ w₂) : Reaches t w t₂ w₂ := by
  induction h' with
  | start => exact h
  | turn turn _ htake ih => exact ih.turn turn htake

/-- A schedule goes on as its first turn leaves it. -/
theorem play_cons {turn : Turn} {turns : List Turn} :
    play (turn :: turns) t w = some (t', w') ↔
      ∃ t₁ w₁, take turn t w = some (t₁, w₁) ∧ play turns t₁ w₁ = some (t', w') := by
  rw [play, Option.bind_eq_some_iff, Prod.exists]

/-- What a schedule comes to is reached. -/
theorem reaches_of_play {turns : List Turn} (h : play turns t w = some (t', w')) :
    Reaches t w t' w' := by
  induction turns generalizing t w with
  | nil =>
    obtain ⟨rfl, rfl⟩ := Prod.mk.inj (Option.some.inj h)
    exact .start
  | cons turn turns ih =>
    obtain ⟨t₁, w₁, htake, hrest⟩ := play_cons.mp h
    exact (Reaches.start.turn turn htake).trans (ih hrest)

/-- A turn may be added at the end of a schedule. -/
theorem play_snoc {turns : List Turn} {turn : Turn} {t₁ : Task} {w₁ : World}
    (h : play turns t w = some (t₁, w₁)) (htake : take turn t₁ w₁ = some (t', w')) :
    play (turns ++ [turn]) t w = some (t', w') := by
  induction turns generalizing t w with
  | nil =>
    obtain ⟨rfl, rfl⟩ := Prod.mk.inj (Option.some.inj h)
    exact play_cons.mpr ⟨t', w', htake, rfl⟩
  | cons turn' turns ih =>
    obtain ⟨t₂, w₂, htake', hrest⟩ := play_cons.mp h
    exact play_cons.mpr ⟨t₂, w₂, htake', ih hrest⟩

/-- Everything that is reached is reached by a schedule, so facts about schedules are facts about runs. -/
theorem exists_play_of_reaches (h : Reaches t w t' w') : ∃ turns, play turns t w = some (t', w') := by
  induction h with
  | start => exact ⟨[], rfl⟩
  | turn turn _ htake ih =>
    obtain ⟨turns, hrun⟩ := ih
    exact ⟨turns ++ [turn], play_snoc hrun htake⟩

/-- A server that takes a connection is something that happens around the program. -/
theorem take_accept (h : w.accept? = some w') :
    take (.outside fun s => s.accept?.getD s) t w = some (t, w') := by
  obtain ⟨s, hs, rfl⟩ := Option.map_eq_some_iff.mp h
  rw [take, hs, Option.getD_some]

/-- The run that the scheduler makes is one of the possible runs. -/
theorem reaches_of_runSteps {n : Nat} {r : UnitResult} {m : Machine}
    (h : runSteps n t w = .finished r m w') : ∃ clock, Reaches t w (.finished clock r m) w' := by
  induction n generalizing t w with
  | zero => cases h
  | succ n ih =>
    unfold runSteps at h
    split at h
    · next w₁ haccept =>
      obtain ⟨clock, hrun⟩ := ih h
      exact ⟨clock, (Reaches.start.turn _ (take_accept haccept)).trans hrun⟩
    · split at h
      · cases h
        exact ⟨_, .start⟩
      · split at h
        · cases h
        · split at h
          · cases h
          · next way _ _ _ _ hstep =>
            obtain ⟨clock, hrun⟩ := ih h
            exact ⟨clock, (Reaches.start.turn (.unit way) hstep).trans hrun⟩

/-- The scheduler came to the end of the main unit, and that without a failure. -/
def Outcome.isSuccess : Outcome → Bool
  | .finished (.ok ()) _ _ => true
  | _ => false

/-- So it is enough to let the scheduler run to know that a program can come to its end. -/
theorem exists_reaches_of_isSuccess {n : Nat} (h : (runSteps n t w).isSuccess) :
    ∃ clock m w', Reaches t w (.finished clock (.ok ()) m) w' := by
  cases hrun : runSteps n t w with
  | stuck => rw [hrun] at h; cases h
  | finished r m w' =>
    cases r with
    | error => rw [hrun] at h; cases h
    | ok =>
      obtain ⟨clock, hreaches⟩ := reaches_of_runSteps hrun
      exact ⟨clock, m, w', hreaches⟩

end Task

end ParLang
