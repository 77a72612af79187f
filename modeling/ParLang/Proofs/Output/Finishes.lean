import ParLang.Proofs.Execution.Confined
import ParLang.Proofs.Execution.Schedule

/-!
# Runs of one unit, answer by answer

`Process.Passes` follows a process that is the only one to take turns, from one answer of the world to the
next, and counts the answers. A process that passes to its end `Process.Finishes`, and a process that goes on
with another one finishes if both do (`Process.finishes_bind_iff`).

A unit needs one turn for each answer and one for the end: a process that finishes is played to its end
(`Task.play_of_finishes`), and one that is played to its end finishes, if it never comes to a parallel block
(`Task.finishes_of_play`).
-/

namespace ParLang

variable {α β : Type}

namespace Process

/-- Alone in the world `w`, the process has become `q` behind `n` answers, and the world `w'`. -/
inductive Passes : Process α → Nat → World → Process α → World → Prop where
  | here {p w} : Passes p 0 w p w
  | answered {m e k n w q w'} (hanswer : w.canAnswer m.unit e = true)
      (hrest : Passes (k (w.answer m.unit e).1) n (w.answer m.unit e).2 q w') :
      Passes (.perform m e k) (n + 1) w q w'

/-- Alone in the world `w`, the process ends with `a` behind `n` answers, in the world `w'`. -/
def Finishes (p : Process α) (n : Nat) (w : World) (a : α) (w' : World) : Prop :=
  p.Passes n w (.done a) w'

variable {p q q' : Process α} {n n' : Nat} {w w₁ w' : World} {a : α}

/-- Ways through a process compose. -/
theorem Passes.trans (h : p.Passes n w q w₁) (h' : q.Passes n' w₁ q' w') :
    p.Passes (n + n') w q' w' := by
  induction h with
  | here =>
    rw [Nat.zero_add]
    exact h'
  | answered hanswer _ ih =>
    rw [Nat.add_right_comm]
    exact .answered hanswer (ih h')

/-- A way through its first part is a way through the whole. -/
theorem Passes.bind (h : p.Passes n w q w') (f : α → Process β) :
    (p.bind f).Passes n w (q.bind f) w' := by
  induction h with
  | here => exact .here
  | answered hanswer _ ih => exact .answered hanswer ih

/-- A process that is done finishes at once. -/
theorem finishes_done_iff {b : α} : (Process.done a).Finishes n w b w' ↔ n = 0 ∧ b = a ∧ w' = w := by
  constructor
  · intro h
    cases h
    exact ⟨rfl, rfl, rfl⟩
  · rintro ⟨rfl, rfl, rfl⟩
    exact .here

/-- Where the depth ran out nothing finishes. -/
theorem not_finishes_exhausted : ¬(Process.exhausted : Process α).Finishes n w a w' := by
  intro h
  cases h

/-- A process that asks for an effect finishes if the world can answer and the rest finishes behind the
answer. -/
theorem finishes_perform_iff {m : Machine} {e : Effect} {k : e.Reply → Process α} :
    (Process.perform m e k).Finishes n w a w' ↔ w.canAnswer m.unit e = true ∧
      ∃ n', n = n' + 1 ∧ (k (w.answer m.unit e).1).Finishes n' (w.answer m.unit e).2 a w' := by
  constructor
  · intro h
    cases h with
    | answered hanswer hrest => exact ⟨hanswer, _, rfl, hrest⟩
  · rintro ⟨hanswer, n', rfl, hrest⟩
    exact .answered hanswer hrest

/-- What forks has units beside it, and is not followed alone. -/
theorem not_finishes_fork {f : Fork} {k : List UnitResult → Process α} :
    ¬(Process.fork f k).Finishes n w a w' := by
  intro h
  cases h

/-- A process that goes on with `f` finishes if `f` does where it ends. -/
theorem finishes_bind_iff {f : α → Process β} {b : β} :
    (p.bind f).Finishes n w b w' ↔
      ∃ a n₁ n₂ w₁, p.Finishes n₁ w a w₁ ∧ (f a).Finishes n₂ w₁ b w' ∧ n = n₁ + n₂ := by
  constructor
  · intro h
    induction p generalizing n w with
    | done a => exact ⟨a, 0, n, w, .here, h, (Nat.zero_add n).symm⟩
    | perform m e k ih =>
      obtain ⟨hanswer, n', rfl, hrest⟩ := finishes_perform_iff.mp h
      obtain ⟨a, n₁, n₂, w₁, hk, hf, rfl⟩ := ih _ hrest
      exact ⟨a, n₁ + 1, n₂, w₁, .answered hanswer hk, hf, Nat.add_right_comm ..⟩
    | fork u k => exact absurd h not_finishes_fork
    | exhausted => exact absurd h not_finishes_exhausted
  · rintro ⟨a, n₁, n₂, w₁, hp, hf, rfl⟩
    exact (Passes.bind hp f).trans hf

end Process

/-! ## Turns -/

namespace Task

variable {p : Process (UnitResult × Machine)} {w w' : World} {r : UnitResult} {m : Machine}
  {n turns clock : Nat}

/-- The turns of a unit that is alone. -/
def solo (turns : Nat) : List Turn :=
  List.replicate turns (.unit [])

/-- Turns of the unit alone, with the first one split off. -/
theorem play_solo_succ {t t' : Task} :
    play (solo (turns + 1)) t w = some (t', w') ↔
      ∃ t₁ w₁, stepAt w [] t = some (t₁, w₁) ∧ play (solo turns) t₁ w₁ = some (t', w') :=
  play_cons

/-- A unit that is alone comes to one end only. -/
theorem play_solo_unique {t : Task} {turns' clock' : Nat} {r' : UnitResult} {m' : Machine} {w₁ : World}
    (h : play (solo turns) t w = some (.finished clock r m, w'))
    (h' : play (solo turns') t w = some (.finished clock' r' m', w₁)) :
    r = r' ∧ m = m' ∧ w' = w₁ := by
  induction turns generalizing t w turns' with
  | zero =>
    obtain ⟨rfl, rfl⟩ := Prod.mk.inj (Option.some.inj h)
    cases turns' with
    | zero =>
      obtain ⟨ht, rfl⟩ := Prod.mk.inj (Option.some.inj h')
      cases ht
      exact ⟨rfl, rfl, rfl⟩
    | succ turns' =>
      obtain ⟨_, _, hstep, -⟩ := play_solo_succ.mp h'
      cases hstep
  | succ turns ih =>
    obtain ⟨t₁, w₂, hstep, hrest⟩ := play_solo_succ.mp h
    cases turns' with
    | zero =>
      obtain ⟨rfl, rfl⟩ := Prod.mk.inj (Option.some.inj h')
      cases hstep
    | succ turns' =>
      obtain ⟨t₂, w₃, hstep', hrest'⟩ := play_solo_succ.mp h'
      obtain ⟨rfl, rfl⟩ := Prod.mk.inj (Option.some.inj (hstep.symm.trans hstep'))
      exact ih hrest hrest'

/-- What the process finishes with in a world, its task comes to in as many turns and one more. -/
theorem play_of_finishes (clock : Nat) (h : p.Finishes n w (r, m) w') :
    ∃ clock', play (solo (n + 1)) (.running clock p) w = some (.finished clock' r m, w') := by
  rw [Process.Finishes] at h
  generalize hq : Process.done (r, m) = q at h
  induction h generalizing clock with
  | here =>
    subst hq
    exact ⟨clock, play_solo_succ.mpr ⟨_, _, rfl, rfl⟩⟩
  | @answered m' e k n w q w' hanswer _ ih =>
    obtain ⟨clock', hplay⟩ := ih (clock + e.duration) hq
    exact ⟨clock', play_solo_succ.mpr ⟨_, _, stepAt_perform hanswer, hplay⟩⟩

/-- A process that is played to its end finishes, if there is no parallel block in its fragment. -/
theorem finishes_of_play {F : Fragment} {u : UnitId} {j : Nat}
    {post : Nat → Set Handle → UnitResult × Machine → Prop} (hF : ∀ units, ¬F.Forks units)
    (hp : p.Confined F u post j Set.univ) {clock' : Nat}
    (h : play (solo turns) (.running clock p) w = some (.finished clock' r m, w')) :
    ∃ n, turns = n + 1 ∧ p.Finishes n w (r, m) w' := by
  induction turns generalizing p w clock with
  | zero => cases h
  | succ turns ih =>
    obtain ⟨t₁, w₁, hstep, hrest⟩ := play_solo_succ.mp h
    cases p with
    | done a =>
      obtain ⟨rfl, rfl⟩ := Prod.mk.inj (Option.some.inj hstep)
      cases turns with
      | zero =>
        obtain ⟨ht, rfl⟩ := Prod.mk.inj (Option.some.inj hrest)
        cases ht
        exact ⟨0, rfl, .here⟩
      | succ turns =>
        obtain ⟨_, _, hstep, -⟩ := play_solo_succ.mp hrest
        cases hstep
    | perform m' e k =>
      obtain ⟨hanswer, rfl, rfl⟩ := of_stepProcess_perform hstep
      have hk := hp.2.2 Set.univ (w.answer m'.unit e).1 (Set.subset_univ _) (Set.subset_univ _)
      obtain ⟨n, rfl, hfinishes⟩ := ih hk hrest
      exact ⟨n + 1, rfl, .answered hanswer hfinishes⟩
    | fork f k => exact absurd hp.2.1 (hF _)
    | exhausted => cases hstep

end Task

end ParLang
