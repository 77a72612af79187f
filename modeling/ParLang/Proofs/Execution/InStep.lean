import Mathlib.Data.List.Forall2
import ParLang.Proofs.Execution.Ending
import ParLang.Proofs.Execution.Schedule

/-!
# Runs in step

Two processes are in step if they ask for the same effects in the same order and end alike. Pauses are
compared by their number only: where the two stand then may differ, and so may their machines, but for
the unit that they belong to. At a fork both have units run, and go on in step whenever the units' results
are alike. A `Likeness` says which forks and which results are, and whether one of the two may give up
for want of depth where the other goes on.

Processes in step have the same runs (`Task.InStep.play`): under the same schedule and in the same world,
every turn of the one is a turn of the other.
-/

namespace ParLang

variable {α β γ δ : Type}

/-- What is compared of two runs beyond the effects that they ask for. -/
structure Likeness where
  /-- The forks that the runs come to are alike. -/
  fork : Fork → Fork → Prop
  /-- The results of units are alike. -/
  result : UnitResult → UnitResult → Prop
  /-- The first run may give up while the second goes on. -/
  first : Prop
  /-- The second run may give up while the first goes on. -/
  second : Prop

namespace Likeness

/-- The same with the two runs in the other order. -/
def flip (L : Likeness) : Likeness :=
  ⟨fun f f' => L.fork f' f, fun r r' => L.result r' r, L.second, L.first⟩

/-- The ends of two units are alike if their results are. -/
def Ends (L : Likeness) (a b : UnitResult × Machine) : Prop :=
  L.result a.1 b.1

end Likeness

/-! ## Processes -/

namespace Process

/-- The processes ask for the same effects and end as in `Q`. -/
inductive InStep (L : Likeness) (Q : α → β → Prop) : Process α → Process β → Prop where
  | done {a b} (h : Q a b) : InStep L Q (.done a) (.done b)
  | perform {m m' e k k'} (hunit : m.unit = m'.unit) (hk : ∀ r, InStep L Q (k r) (k' r)) :
      InStep L Q (.perform m e k) (.perform m' e k')
  | pause {m m' here here' k k'} (hunit : m.unit = m'.unit) (hk : InStep L Q (k ()) (k' ())) :
      InStep L Q (.perform m (.pause here) k) (.perform m' (.pause here') k')
  | fork {f f' k k'} (hf : L.fork f f')
      (hk : ∀ rs rs', List.Forall₂ L.result rs rs' → InStep L Q (k rs) (k' rs')) :
      InStep L Q (.fork f k) (.fork f' k')
  | exhausted : InStep L Q .exhausted .exhausted
  | first (h : L.first) {q} : InStep L Q .exhausted q
  | second (h : L.second) {p} : InStep L Q p .exhausted

variable {L : Likeness} {Q : α → β → Prop} {p : Process α} {q : Process β}

/-- Two processes in step stay so if less is asked of their results. -/
theorem InStep.imp {Q' : α → β → Prop} (h : p.InStep L Q q) (hQ : ∀ a b, Q a b → Q' a b) :
    p.InStep L Q' q := by
  induction h with
  | done h => exact .done (hQ _ _ h)
  | perform hunit _ ih => exact .perform hunit ih
  | pause hunit _ ih => exact .pause hunit ih
  | fork hf _ ih => exact .fork hf ih
  | exhausted => exact .exhausted
  | first h => exact .first h
  | second h => exact .second h

/-- Processes in step that go on in step are in step. -/
theorem InStep.bind {R : γ → δ → Prop} {f : α → Process γ} {g : β → Process δ}
    (h : p.InStep L Q q) (hfg : ∀ a b, Q a b → (f a).InStep L R (g b)) :
    (p.bind f).InStep L R (q.bind g) := by
  induction h with
  | done h => exact hfg _ _ h
  | perform hunit _ ih => exact .perform hunit ih
  | pause hunit _ ih => exact .pause hunit ih
  | fork hf _ ih => exact .fork hf ih
  | exhausted => exact .exhausted
  | first h => exact .first h
  | second h => exact .second h

/-- Being in step can be read from the other side, with the likeness turned round. -/
theorem InStep.flip (h : p.InStep L Q q) : q.InStep L.flip (fun b a => Q a b) p := by
  induction h with
  | done h => exact .done h
  | perform hunit _ ih => exact .perform hunit.symm ih
  | pause hunit _ ih => exact .pause hunit.symm ih
  | fork hf _ ih => exact .fork hf fun rs rs' hrs => ih rs' rs hrs.flip
  | exhausted => exact .exhausted
  | first h => exact .second h
  | second h => exact .first h

/-- What holds at every end of the first process holds at the ends that are compared. -/
theorem InStep.ends {P : α → Prop} (h : p.InStep L Q q) (hP : ∀ es a, p.Ends es a → P a) :
    p.InStep L (fun a b => Q a b ∧ P a) q := by
  induction h with
  | done h => exact .done ⟨h, hP [] _ .here⟩
  | perform hunit _ ih =>
    exact .perform hunit fun r => ih r fun es a hends => hP _ a (.answered hends)
  | pause hunit _ ih => exact .pause hunit (ih fun es a hends => hP _ a (.answered hends))
  | fork hf _ ih =>
    exact .fork hf fun rs rs' hrs => ih rs rs' hrs fun es a hends => hP _ a (.joined hends)
  | exhausted => exact .exhausted
  | first h => exact .first h
  | second h => exact .second h

end Process

/-- Forks that are alike start units in step, and units that panic alike end alike. -/
structure Likeness.Starts (L : Likeness) : Prop where
  length : ∀ {f f'}, L.fork f f' → f.units.length = f'.units.length
  units : ∀ {f f'}, L.fork f f' → ∀ (i : Nat) s s', f.units[i]? = some s → f'.units[i]? = some s' →
    (Exec.runUnit f.budget s (f.machine.child i)).InStep L L.Ends
      (Exec.runUnit f'.budget s' (f'.machine.child i))
  panic : ∀ message, L.result (.error (Task.panicked message)) (.error (Task.panicked message))

/-- If units start in step they do so too when both sides are exchanged. -/
theorem Likeness.Starts.flip {L : Likeness} (h : L.Starts) : L.flip.Starts :=
  ⟨fun hf => (h.length hf).symm, fun hf i s s' hs hs' => (h.units hf i s' s hs' hs).flip, h.panic⟩

/-! ## Tasks -/

namespace Task

variable {L : Likeness} {Q : UnitResult × Machine → UnitResult × Machine → Prop} {t t' t₁ : Task}
  {w w₁ : World}

/-- The result of a task that has finished, with the machine that it leaves. -/
def outcome? : Task → Option (UnitResult × Machine)
  | .finished _ r m => some (r, m)
  | _ => none

/-- The units of the two tasks stand at the same places and are in step. -/
inductive InStep (L : Likeness) :
    (UnitResult × Machine → UnitResult × Machine → Prop) → Task → Task → Prop where
  | running {Q clock clock' p p'} (h : Process.InStep L Q p p') :
      InStep L Q (.running clock p) (.running clock' p')
  | waiting {Q f f' units units' k k'}
      (hk : ∀ rs rs', List.Forall₂ L.result rs rs' → (k rs).InStep L Q (k' rs'))
      (hlength : units.length = units'.length)
      (hunits : ∀ (i : Nat) t t', units[i]? = some t → units'[i]? = some t' →
        InStep L L.Ends t t') :
      InStep L Q (.waiting f units k) (.waiting f' units' k')
  | finished {Q clock clock' r r' m m'} (h : Q (r, m) (r', m')) :
      InStep L Q (.finished clock r m) (.finished clock' r' m')

/-- Tasks in step are in step from the other side. -/
theorem InStep.flip (h : t.InStep L Q t') : t'.InStep L.flip (fun b a => Q a b) t := by
  induction h with
  | running h => exact .running h.flip
  | waiting hk hlength _ ih =>
    exact .waiting (fun rs rs' hrs => (hk rs' rs hrs.flip).flip) hlength.symm
      fun i t t' ht ht' => ih i t' t ht' ht
  | finished h => exact .finished h

/-- Tasks in step have finished together, and a view that does not tell ends apart that are compared
does not tell theirs apart. -/
theorem InStep.map_outcome? {v v' : UnitResult × Machine → α} (hv : ∀ a b, Q a b → v a = v' b)
    (h : t.InStep L Q t') : t.outcome?.map v = t'.outcome?.map v' := by
  cases h with
  | running | waiting => rfl
  | finished h => exact congrArg some (hv _ _ h)

/-- Units in step have results together, and the results are alike. -/
theorem exists_results? {us us' : List Task} (hlength : us.length = us'.length)
    (hunits : ∀ (i : Nat) t t', us[i]? = some t → us'[i]? = some t' → t.InStep L L.Ends t')
    {clock : Nat} {rs : List UnitResult} (h : results? us = some (clock, rs)) :
    ∃ clock' rs', results? us' = some (clock', rs') ∧ List.Forall₂ L.result rs rs' := by
  induction us generalizing us' clock rs with
  | nil =>
    obtain rfl := List.length_eq_zero_iff.mp hlength.symm
    obtain ⟨-, rfl⟩ := Prod.mk.inj (Option.some.inj h)
    exact ⟨0, [], rfl, .nil⟩
  | cons t rest ih =>
    obtain ⟨t', rest', rfl⟩ := List.exists_cons_of_length_eq_add_one hlength.symm
    have hfirst := hunits 0 t t' rfl rfl
    cases hfirst with
    | running h' => simp [results?] at h
    | waiting => simp [results?] at h
    | @finished _ c c' r r' m m' hr =>
      obtain ⟨⟨latest, rs₁⟩, hrest, heq⟩ := Option.map_eq_some_iff.mp h
      obtain ⟨-, rfl⟩ := Prod.mk.inj heq
      obtain ⟨latest', rs', hrest', hrs⟩ := ih (Nat.succ.inj hlength)
        (fun i t t' ht ht' => hunits (i + 1) t t' ht ht') hrest
      exact ⟨max c' latest', r' :: rs', by simp [results?, hrest'], .cons hr hrs⟩

/-! ## Turns -/

/-- One step of a running unit. -/
theorem inStep_stepProcess (hL : L.Starts) (hgoes : ¬ L.second) {clock clock' : Nat}
    {p p' : Process (UnitResult × Machine)} (h : p.InStep L Q p')
    (hstep : stepProcess w clock p = some (t₁, w₁)) :
    ∃ t₁', stepProcess w clock' p' = some (t₁', w₁) ∧ t₁.InStep L Q t₁' := by
  cases h with
  | @done a b h =>
    obtain ⟨rfl, rfl⟩ := Prod.mk.inj (Option.some.inj hstep)
    exact ⟨_, rfl, .finished h⟩
  | @perform m m' e k k' hunit hk =>
    simp only [stepProcess] at hstep ⊢
    rw [hunit] at hstep
    split at hstep
    · next hcan =>
      obtain ⟨rfl, rfl⟩ := Prod.mk.inj (Option.some.inj hstep)
      exact ⟨_, by rw [if_pos hcan], .running (hk _)⟩
    · cases hstep
  | pause hunit hk =>
    obtain ⟨rfl, rfl⟩ := Prod.mk.inj (Option.some.inj hstep)
    exact ⟨_, rfl, .running hk⟩
  | @fork f f' k k' hf hk =>
    obtain ⟨rfl, rfl⟩ := Prod.mk.inj (Option.some.inj hstep)
    refine ⟨_, rfl, .waiting hk (by simpa using hL.length hf) fun i t t' ht ht' => ?_⟩
    rw [getElem?_unitsFrom, Option.map_eq_some_iff, Nat.zero_add] at ht ht'
    obtain ⟨s, hs, rfl⟩ := ht
    obtain ⟨s', hs', rfl⟩ := ht'
    exact .running (hL.units hf i s s' hs hs')
  | exhausted => cases hstep
  | first => cases hstep
  | second h => exact absurd h hgoes

/-- One step of the tasks' own units. -/
theorem InStep.step (hL : L.Starts) (hgoes : ¬ L.second) (h : t.InStep L Q t')
    (hstep : Task.step w t = some (t₁, w₁)) :
    ∃ t₁', Task.step w t' = some (t₁', w₁) ∧ t₁.InStep L Q t₁' := by
  cases h with
  | running h => exact inStep_stepProcess hL hgoes h hstep
  | waiting hk hlength hunits =>
    obtain ⟨⟨clock, rs⟩, hrs, heq⟩ := Option.map_eq_some_iff.mp hstep
    obtain ⟨rfl, rfl⟩ := Prod.mk.inj heq
    obtain ⟨clock', rs', hrs', halike⟩ := exists_results? hlength hunits hrs
    exact ⟨_, by rw [Task.step, hrs']; rfl, .running (hk rs rs' halike)⟩
  | finished => cases hstep

/-- The surroundings can answer both of two units in step or none, because the two ask for the same. -/
theorem InStep.heed {reply : (e : Effect) → e.Reply} (hgoes : ¬ L.second) (h : t.InStep L Q t')
    (hstep : Task.heed reply w t = some (t₁, w₁)) :
    ∃ t₁', Task.heed reply w t' = some (t₁', w₁) ∧ t₁.InStep L Q t₁' := by
  obtain ⟨clock, m, e, k, rfl, houtside, rfl, rfl⟩ := heed_eq_some.mp hstep
  cases h with
  | running h =>
    cases h with
    | perform hunit hk => exact ⟨_, heed_eq_some.mpr ⟨_, _, _, _, rfl, houtside, rfl, rfl⟩, .running (hk _)⟩
    | pause => cases houtside
    | second h => exact absurd h hgoes

/-- Two units in step panic together. -/
theorem InStep.tearDown {message : String} (hL : L.Starts) (hgoes : ¬ L.second)
    (h : t.InStep L L.Ends t') (hstep : Task.tearDown message w t = some (t₁, w₁)) :
    ∃ t₁', Task.tearDown message w t' = some (t₁', w₁) ∧ t₁.InStep L L.Ends t₁' := by
  cases h with
  | running h =>
    cases h with
    | done => cases hstep
    | perform | pause | fork =>
      obtain ⟨rfl, rfl⟩ := Prod.mk.inj (Option.some.inj hstep)
      exact ⟨_, rfl, .finished (hL.panic message)⟩
    | exhausted | first => cases hstep
    | second h => exact absurd h hgoes
  | waiting hk hlength hunits =>
    obtain ⟨⟨clock, rs⟩, hrs, heq⟩ := Option.map_eq_some_iff.mp hstep
    obtain ⟨rfl, rfl⟩ := Prod.mk.inj heq
    obtain ⟨clock', rs', hrs', -⟩ := exists_results? hlength hunits hrs
    exact ⟨_, by rw [Task.tearDown, hrs']; rfl, .finished (hL.panic message)⟩
  | finished => cases hstep

/-- Where a unit that the tasks wait for acts alike in both, so do the tasks. -/
theorem InStep.unit {act : Task → Option (Task × World)} {i : Nat} {way : List Nat}
    (hact : ∀ {u u' u₁ : Task}, u.InStep L L.Ends u' → actAt act way u = some (u₁, w₁) →
      ∃ u₁', actAt act way u' = some (u₁', w₁) ∧ u₁.InStep L L.Ends u₁')
    (h : t.InStep L Q t') (hstep : actAt act (i :: way) t = some (t₁, w₁)) :
    ∃ t₁', actAt act (i :: way) t' = some (t₁', w₁) ∧ t₁.InStep L Q t₁' := by
  obtain ⟨f, units, k, u, u₁, rfl, hu, hunit, rfl⟩ := exists_of_actAt_cons hstep
  cases h with
  | @waiting _ _ f' _ units' _ k' hk hlength hunits =>
    obtain ⟨hlt, -⟩ := List.getElem?_eq_some_iff.mp hu
    have hu' : units'[i]? = some units'[i] := List.getElem?_eq_getElem (hlength ▸ hlt)
    obtain ⟨u₁', hunit', hinstep⟩ := hact (hunits i u _ hu hu') hunit
    refine ⟨_, actAt_cons_eq_some.mpr ⟨_, u₁', hu', hunit', rfl⟩, .waiting hk (by simpa) ?_⟩
    intro j v v' hv hv'
    rcases eq_or_of_getElem?_set hv with ⟨rfl, rfl⟩ | ⟨hne, hv⟩
    · rw [List.getElem?_set_self (hlength ▸ hlt)] at hv'
      exact Option.some.inj hv' ▸ hinstep
    · rw [List.getElem?_set_ne hne] at hv'
      exact hunits j v v' hv hv'

/-- The same for a unit anywhere below the tasks' own. -/
theorem InStep.beneath {act : Task → Option (Task × World)}
    (hact : ∀ {u u' u₁ : Task}, u.InStep L L.Ends u' → act u = some (u₁, w₁) →
      ∃ u₁', act u' = some (u₁', w₁) ∧ u₁.InStep L L.Ends u₁')
    {i : Nat} {way : List Nat} (h : t.InStep L Q t')
    (hstep : actAt act (i :: way) t = some (t₁, w₁)) :
    ∃ t₁', actAt act (i :: way) t' = some (t₁', w₁) ∧ t₁.InStep L Q t₁' := by
  induction way generalizing Q i t t' t₁ with
  | nil => exact h.unit hact hstep
  | cons j way ih => exact h.unit (fun hu hunit => ih hu hunit) hstep

/-- **One turn in two runs.** Where the second run does not give up, a turn that is possible in the first
is possible in the second and has the same effect on the world. -/
theorem InStep.take (hL : L.Starts) (hgoes : ¬ L.second) {turn : Turn} (h : t.InStep L Q t')
    (htake : Task.take turn t w = some (t₁, w₁)) :
    ∃ t₁', Task.take turn t' w = some (t₁', w₁) ∧ t₁.InStep L Q t₁' := by
  cases turn with
  | unit way =>
    cases way with
    | nil => exact h.step hL hgoes htake
    | cons i way => exact h.beneath (fun h => h.step hL hgoes) htake
  | answered way reply =>
    cases way with
    | nil => exact h.heed hgoes htake
    | cons i way => exact h.beneath (fun h => h.heed hgoes) htake
  | outside change =>
    obtain ⟨rfl, rfl⟩ := Prod.mk.inj (Option.some.inj htake)
    exact ⟨t', rfl, h⟩
  | panic i way message => exact h.beneath (fun h => h.tearDown hL hgoes) htake

/-! ## Runs -/

/-- **A run in two tasks.** Under the same schedule and in the same world the second task does what the
first does. -/
theorem InStep.play (hL : L.Starts) (hgoes : ¬ L.second) {turns : List Turn}
    (h : t.InStep L Q t') (hrun : Task.play turns t w = some (t₁, w₁)) :
    ∃ t₁', Task.play turns t' w = some (t₁', w₁) ∧ t₁.InStep L Q t₁' := by
  induction turns generalizing t t' w with
  | nil =>
    obtain ⟨rfl, rfl⟩ := Prod.mk.inj (Option.some.inj hrun)
    exact ⟨t', rfl, h⟩
  | cons turn turns ih =>
    obtain ⟨t₂, w₂, htake, hrest⟩ := play_cons.mp hrun
    obtain ⟨t₂', htake', hinstep⟩ := h.take hL hgoes htake
    obtain ⟨t₁', hrest', hinstep'⟩ := ih hinstep hrest
    exact ⟨t₁', play_cons.mpr ⟨t₂', w₂, htake', hrest'⟩, hinstep'⟩

/-- The same in the other direction, where the first run does not give up. -/
theorem InStep.play_back (hL : L.Starts) (hgoes : ¬ L.first) {turns : List Turn}
    {t₁' : Task} (h : t.InStep L Q t') (hrun : Task.play turns t' w = some (t₁', w₁)) :
    ∃ t₁, Task.play turns t w = some (t₁, w₁) ∧ t₁.InStep L Q t₁' := by
  obtain ⟨t₁, hrun', hinstep⟩ := h.flip.play hL.flip hgoes hrun
  exact ⟨t₁, hrun', hinstep.flip⟩

/-- **Runs in step look alike.** Where neither run gives up alone, the two have the same schedules,
leave the same world and end alike. -/
theorem InStep.map_play (hL : L.Starts) (hfirst : ¬ L.first) (hsecond : ¬ L.second)
    {v v' : UnitResult × Machine → α} (hv : ∀ a b, Q a b → v a = v' b) (h : t.InStep L Q t')
    (turns : List Turn) (w : World) :
    (Task.play turns t w).map (fun (t, w) => (t.outcome?.map v, w)) =
      (Task.play turns t' w).map fun (t, w) => (t.outcome?.map v', w) := by
  cases hrun : Task.play turns t w with
  | some s =>
    obtain ⟨t₁', hrun', hinstep⟩ := h.play hL hsecond hrun
    rw [hrun']
    exact congrArg (fun o => some (o, s.2)) (hinstep.map_outcome? hv)
  | none =>
    cases hrun' : Task.play turns t' w with
    | none => rfl
    | some s =>
      obtain ⟨t₁, hrun₁, -⟩ := h.play_back hL hfirst hrun'
      exact nomatch hrun.symm.trans hrun₁

end Task

end ParLang
