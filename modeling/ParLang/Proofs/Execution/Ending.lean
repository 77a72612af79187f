import ParLang.Proofs.Execution.Protocol

/-!
# How processes end

A process is deterministic: what it does next depends on the replies that it has got so far, and on
nothing else. `Process.After` follows a process along a list of events, each of which is something it
asked for with what it got, and `Process.Ends` says that it has come to its end then, so that it asks
for nothing more. The events are arbitrary: a statement about all of them is one about every world and
every schedule. `Task.ends_of_reaches` says that every run of a unit is of this kind.
-/

namespace ParLang

variable {α β : Type}

/-- Something that a process asked for, with what it got. -/
inductive Event where
  | answered (e : Effect) (r : e.Reply)
  /-- Units have run beside each other. -/
  | joined (f : Fork) (results : List UnitResult)

namespace Process

/-- The process, when it has got what the events say. -/
inductive After : Process α → List Event → Process α → Prop where
  | here {p} : After p [] p
  | answered {m e k r es q} (h : After (k r) es q) :
      After (.perform m e k) (.answered e r :: es) q
  | joined {f k rs es q} (h : After (k rs) es q) : After (.fork f k) (.joined f rs :: es) q

/-- The process ends with `a` when it has got what the events say. -/
def Ends (p : Process α) (es : List Event) (a : α) : Prop :=
  p.After es (.done a)

variable {p q : Process α} {es es' : List Event} {a b : α}

/-- Walks through a process compose: the events of the first and then those of the second. -/
theorem After.trans {q' : Process α} (h : p.After es q) (h' : q.After es' q') :
    p.After (es ++ es') q' := by
  induction h with
  | here => exact h'
  | answered _ ih => exact .answered (ih h')
  | joined _ ih => exact .joined (ih h')

/-- A process that is done asks for nothing more and ends with its own result. -/
theorem ends_done_iff : (Process.done a).Ends es b ↔ es = [] ∧ b = a := by
  constructor
  · intro h
    cases h
    exact ⟨rfl, rfl⟩
  · rintro ⟨rfl, rfl⟩
    exact .here

/-- Where the depth ran out there is no result. -/
theorem not_ends_exhausted : ¬(Process.exhausted : Process α).Ends es a := by
  intro h
  cases h

/-- A process that goes on with `f` ends where `f` does. -/
theorem ends_bind_iff {f : α → Process β} {b : β} :
    (p.bind f).Ends es b ↔ ∃ a es₁ es₂, p.Ends es₁ a ∧ (f a).Ends es₂ b ∧ es = es₁ ++ es₂ := by
  constructor
  · intro h
    induction p generalizing es with
    | done a => exact ⟨a, [], es, .here, h, rfl⟩
    | perform m e k ih =>
      cases h with
      | @answered _ _ _ r es _ h =>
        obtain ⟨a, es₁, es₂, hp, hf, rfl⟩ := ih r h
        exact ⟨a, .answered e r :: es₁, es₂, .answered hp, hf, rfl⟩
    | fork u k ih =>
      cases h with
      | @joined _ _ rs es _ h =>
        obtain ⟨a, es₁, es₂, hp, hf, rfl⟩ := ih rs h
        exact ⟨a, .joined u rs :: es₁, es₂, .joined hp, hf, rfl⟩
    | exhausted => exact absurd h not_ends_exhausted
  · rintro ⟨a, es₁, es₂, hp, hf, rfl⟩
    rw [Ends] at hp
    generalize hq : Process.done a = q at hp
    induction hp with
    | here =>
      subst hq
      exact hf
    | answered _ ih => exact .answered (ih hq)
    | joined _ ih => exact .joined (ih hq)

/-- Follows a process that does nothing but pause. -/
def coast : Nat → Process α → Option (List Event × α)
  | _, .done a => some ([], a)
  | n + 1, .perform _ (.pause here) k =>
    (coast n (k ())).map fun (es, a) => (.answered (.pause here) () :: es, a)
  | _, _ => none

/-- What a bounded walk finds is an end of the process. -/
theorem ends_of_coast {n : Nat} (h : p.coast n = some (es, a)) : p.Ends es a := by
  fun_induction coast n p generalizing es with
  | case1 n a' =>
    obtain ⟨rfl, rfl⟩ := Prod.mk.inj (Option.some.inj h)
    exact .here
  | case2 n m here k ih =>
    obtain ⟨⟨es', a'⟩, hk, heq⟩ := Option.map_eq_some_iff.mp h
    obtain ⟨rfl, rfl⟩ := Prod.mk.inj heq
    exact .answered (ih hk)
  | case3 => cases h

/-- To show that a process can end in some way it is enough to compute one walk. -/
theorem exists_ends {n : Nat} {P : α → Bool} (h : (p.coast n).any (P ·.2)) :
    ∃ es a, p.Ends es a ∧ P a := by
  obtain ⟨⟨es, a⟩, hcoast, ha⟩ := (Option.any_eq_true _ _).mp h
  exact ⟨es, a, ends_of_coast hcoast, ha⟩

end Process

/-! ## Executions -/

namespace Exec

variable {m m' : Machine} {es : List Event} {x : Exec α} {f : α → Exec β}

/-- Two executions in turn end as the first one if it fails, and else as the second one. -/
theorem ends_bind_iff {r : Except RuntimeError β} :
    ((x >>= f) m).Ends es (r, m') ↔
      (∃ e, (x m).Ends es (.error e, m') ∧ r = .error e) ∨
      ∃ a m₁ es₁ es₂, (x m).Ends es₁ (.ok a, m₁) ∧ (f a m₁).Ends es₂ (r, m') ∧ es = es₁ ++ es₂ := by
  rw [bind_apply, Process.ends_bind_iff]
  constructor
  · rintro ⟨⟨e | a, m₁⟩, es₁, es₂, hx, hf, rfl⟩
    · obtain ⟨rfl, heq⟩ := Process.ends_done_iff.mp hf
      obtain ⟨rfl, rfl⟩ := Prod.mk.inj heq
      rw [List.append_nil]
      exact .inl ⟨e, hx, rfl⟩
    · exact .inr ⟨a, m₁, es₁, es₂, hx, hf, rfl⟩
  · rintro (⟨e, hx, rfl⟩ | ⟨a, m₁, es₁, es₂, hx, hf, rfl⟩)
    · exact ⟨_, es, [], hx, .here, (List.append_nil es).symm⟩
    · exact ⟨_, es₁, es₂, hx, hf, rfl⟩

/-- A sequence ends well if both parts do, with the events of the one before those of the other. -/
theorem ends_bind_ok_iff {b : β} :
    ((x >>= f) m).Ends es (.ok b, m') ↔
      ∃ a m₁ es₁ es₂, (x m).Ends es₁ (.ok a, m₁) ∧ (f a m₁).Ends es₂ (.ok b, m') ∧
        es = es₁ ++ es₂ := by
  rw [ends_bind_iff]
  constructor
  · rintro (⟨_, _, h⟩ | h)
    · cases h
    · exact h
  · exact .inr

/-- What does nothing ends with its value, on the machine it got. -/
theorem ends_pure_iff {a : α} {r : Except RuntimeError α} :
    ((pure a : Exec α) m).Ends es (r, m') ↔ es = [] ∧ r = .ok a ∧ m' = m := by
  show (Process.done (Except.ok a, m)).Ends es (r, m') ↔ _
  rw [Process.ends_done_iff, Prod.mk.injEq]

/-- An effect ends with whatever the reply is, and leaves the machine alone. -/
theorem ends_perform_iff {e : Effect} {r : Except RuntimeError e.Reply} :
    (perform e m).Ends es (r, m') ↔ ∃ a, es = [.answered e a] ∧ r = .ok a ∧ m' = m := by
  constructor
  · intro h
    cases h with
    | answered h =>
      obtain ⟨rfl, heq⟩ := Process.ends_done_iff.mp h
      obtain ⟨rfl, rfl⟩ := Prod.mk.inj heq
      exact ⟨_, rfl, rfl, rfl⟩
  · rintro ⟨a, rfl, rfl, rfl⟩
    exact .answered .here

/-- A scope is left behind every end. -/
theorem ends_inScope_iff {r : Except RuntimeError α} :
    (inScope x m).Ends es (r, m') ↔
      ∃ m₁, (x { m with scopes := m.scopes.push }).Ends es (r, m₁) ∧
        m' = { m₁ with scopes := m₁.scopes.pop } := by
  rw [inScope, Process.ends_bind_iff]
  constructor
  · rintro ⟨⟨r₁, m₁⟩, es₁, es₂, hx, hf, rfl⟩
    obtain ⟨rfl, heq⟩ := Process.ends_done_iff.mp hf
    obtain ⟨rfl, rfl⟩ := Prod.mk.inj heq
    exact ⟨m₁, by rwa [List.append_nil], rfl⟩
  · rintro ⟨m₁, hx, rfl⟩
    exact ⟨(r, m₁), es, [], hx, .here, (List.append_nil es).symm⟩

/-- A call is left behind every end. -/
theorem ends_inCall_iff {d : Nat} {r : Except RuntimeError α} :
    (inCall d x m).Ends es (r, m') ↔
      ∃ m₁, (x { m with scopes := (m.scopes.enter d).2 }).Ends es (r, m₁) ∧
        m' = { m₁ with scopes := m₁.scopes.leave (m.scopes.enter d).1 } := by
  rw [inCall, Process.ends_bind_iff]
  constructor
  · rintro ⟨⟨r₁, m₁⟩, es₁, es₂, hx, hf, rfl⟩
    obtain ⟨rfl, heq⟩ := Process.ends_done_iff.mp hf
    obtain ⟨rfl, rfl⟩ := Prod.mk.inj heq
    exact ⟨m₁, by rwa [List.append_nil], rfl⟩
  · rintro ⟨m₁, hx, rfl⟩
    exact ⟨(r, m₁), es, [], hx, .here, (List.append_nil es).symm⟩

end Exec

/-! ## Runs -/

namespace Task

variable {p : Process (UnitResult × Machine)} {t t' : Task} {w w' : World} {clock : Nat}

/-- The task is the unit `p` after some events. -/
def IsAfter (p : Process (UnitResult × Machine)) : Task → Prop
  | .running _ q => ∃ es, p.After es q
  | .waiting f _ k => ∃ es, p.After es (.fork f k)
  | .finished _ r m => ∃ es, p.Ends es (r, m)

/-- A step of the task's own unit. -/
theorem IsAfter.step (h : t.IsAfter p) (hstep : Task.step w t = some (t', w')) : t'.IsAfter p := by
  cases t with
  | finished clock r m => cases hstep
  | running clock q =>
    obtain ⟨es, hq⟩ := h
    cases q with
    | done r =>
      obtain ⟨r, m⟩ := r
      cases hstep
      exact ⟨es, hq⟩
    | perform m e k =>
      simp only [Task.step, stepProcess] at hstep
      split at hstep
      · cases hstep
        exact ⟨_, hq.trans (.answered .here)⟩
      · cases hstep
    | fork f k =>
      cases hstep
      exact ⟨es, hq⟩
    | exhausted => cases hstep
  | waiting f units k =>
    obtain ⟨es, hq⟩ := h
    obtain ⟨⟨clock, rs⟩, -, heq⟩ := Option.map_eq_some_iff.mp hstep
    cases heq
    exact ⟨_, hq.trans (.joined .here)⟩

/-- Where a unit below the task's own acts, nothing happens to the task's own. -/
theorem IsAfter.beneath {act : Task → Option (Task × World)} {i : Nat} {way : List Nat}
    (h : t.IsAfter p) (hact : actAt act (i :: way) t = some (t', w')) : t'.IsAfter p := by
  obtain ⟨f, units, k, u, u', rfl, -, -, rfl⟩ := exists_of_actAt_cons hact
  exact h

/-- **One turn** is an event of the task's own unit or none. Nobody tears down the main unit. -/
theorem IsAfter.take {turn : Turn} (h : t.IsAfter p) (htake : Task.take turn t w = some (t', w')) :
    t'.IsAfter p := by
  cases turn with
  | unit way =>
    cases way with
    | nil => exact h.step htake
    | cons i way => exact h.beneath htake
  | answered way reply =>
    cases way with
    | nil =>
      obtain ⟨clock, m, e, c, rfl, -, rfl, -⟩ := heed_eq_some.mp htake
      obtain ⟨es, hq⟩ := h
      exact ⟨_, hq.trans (.answered .here)⟩
    | cons i way => exact h.beneath htake
  | outside change =>
    cases htake
    exact h
  | panic i way message => exact h.beneath htake

/-- **The end of a run is an end of its unit.** -/
theorem ends_of_reaches {r : UnitResult} {m : Machine} {clock' : Nat}
    (h : Reaches (.running clock p) w (.finished clock' r m) w') : ∃ es, p.Ends es (r, m) := by
  have hafter : ∀ {t : Task} {w' : World}, Reaches (.running clock p) w t w' → t.IsAfter p := by
    intro t w' h
    induction h with
    | start => exact ⟨[], .here⟩
    | turn _ _ htake ih => exact ih.take htake
  exact hafter h

end Task

end ParLang
