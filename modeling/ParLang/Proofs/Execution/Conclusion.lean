import ParLang.Proofs.Execution.Schedule

/-!
# What a process comes to by itself

`Process.conclude` runs a process in a world in which nothing else happens, up to its end or to where it
cannot go on. It is what a unit comes to when it is the only one that takes turns
(`Process.exists_follow_of_conclude`).
-/

namespace ParLang

/-- Where a process comes to by itself. -/
inductive Conclusion (α : Type) where
  | ended (a : α) (w : World)
  /-- The world has no answer yet. -/
  | waiting (m : Machine) (e : Effect) (w : World)
  /-- Units are to run beside each other. -/
  | forked (f : Fork) (w : World)
  /-- The depth budget ran out. -/
  | exhausted

namespace Process

variable {α β : Type}

/-- Runs a process by itself. -/
def conclude (w : World) : Process α → Conclusion α
  | .done a => .ended a w
  | .perform m e k =>
    if w.canAnswer m.unit e then (k (w.answer m.unit e).1).conclude (w.answer m.unit e).2
    else .waiting m e w
  | .fork f _ => .forked f w
  | .exhausted => .exhausted

/-- A process that goes on with `f` concludes where `f` does. -/
theorem conclude_bind (p : Process α) (f : α → Process β) (w : World) :
    (p.bind f).conclude w =
      match p.conclude w with
      | .ended a w' => (f a).conclude w'
      | .waiting m e w' => .waiting m e w'
      | .forked u w' => .forked u w'
      | .exhausted => .exhausted := by
  induction p generalizing w with
  | done a => rfl
  | perform m e k ih =>
    simp only [bind, conclude]
    split
    · exact ih _ _
    · rfl
  | fork u k => rfl
  | exhausted => rfl

/-- A unit that is the only one to take turns ends as its process does by itself. -/
theorem exists_follow_of_conclude {p : Process (UnitResult × Machine)} {w w' : World} {r : UnitResult}
    {m : Machine} (h : p.conclude w = .ended (r, m) w') (clock : Nat) :
    ∃ n clock', Task.follow (List.replicate n []) (.running clock p) w =
      some (.finished clock' r m, w') := by
  induction p generalizing w clock with
  | done a =>
    cases h
    exact ⟨1, clock, rfl⟩
  | perform m₁ e k ih =>
    rw [conclude] at h
    split at h
    · next hanswer =>
      obtain ⟨n, clock', hrest⟩ := ih _ h (clock + e.duration)
      exact ⟨n + 1, clock', Task.follow_cons.mpr ⟨_, _, Task.stepAt_perform hanswer, hrest⟩⟩
    · cases h
  | fork f k => cases h
  | exhausted => cases h

end Process

end ParLang
