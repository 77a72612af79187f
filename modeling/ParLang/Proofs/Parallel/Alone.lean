import Mathlib.Algebra.BigOperators.Group.Finset.Piecewise
import ParLang.Proofs.Parallel.Lockstep

/-!
# How a task ends

`Task.Alone` says what a task comes to when nothing runs beside it, and in how many steps. It does not
say in which order units take turns, and it has no clock: each unit of a fork, and what comes behind
the fork, is taken from the world of the fork, as if the other units had not run.

For units that keep to themselves that is what every schedule does. Each step leads to a task with one
step less to go (`Task.Alone.step`), and where steps are left one can be made (`Task.Alone.progress`).
Conversely a step leads from a task with one step more to go (`Task.Alone.unstep`), so one run that
comes to an end says how all do (`Task.alone_of_follow`).
-/

namespace ParLang

variable {F : Fragment} {w v w' : World} {u : UnitId} {n N : Nat} {r : UnitResult}

/-- The process, run alone, comes to the result `r` in `n` steps. -/
inductive Process.Alone : World → Process (UnitResult × Machine) → Nat → UnitResult → Prop where
  | done {w r m} : Alone w (.done (r, m)) 1 r
  | perform {w m e k n r} (hcan : w.canAnswer m.unit e = true)
      (h : Alone (w.answer m.unit e).2 (k (w.answer m.unit e).1) n r) :
      Alone w (.perform m e k) (n + 1) r
  | fork {w f k} {ns : Nat → Nat} {rs : List UnitResult} {n r} (hlength : rs.length = f.units.length)
      (hunits : ∀ (i : Nat) s rᵢ, f.units[i]? = some s → rs[i]? = some rᵢ →
        Alone w (Exec.runUnit f.budget s (f.machine.child i)) (ns i) rᵢ)
      (hk : Alone w (k rs) n r) :
      Alone w (.fork f k) (∑ i ∈ Finset.range f.units.length, ns i + n + 2) r

/-- A process ends alike in worlds that agree for it. -/
theorem Process.Alone.agrees (hF : ¬ F.shares) {p : Process (UnitResult × Machine)} {j : Nat}
    {K : Set Handle} (h : p.Alone w n r) (hp : p.Confined F u anyEnd j K)
    (hw : w.Agrees (territory u j) K v) : p.Alone v n r := by
  induction h generalizing u v j K with
  | done => exact .done
  | perform hcan _ ih =>
    obtain ⟨hm, he, hk⟩ := hp
    rw [hm.unit] at hcan ih
    obtain ⟨hcan', hreply, K', hK, hknown, hagrees⟩ :=
      hw.answer (self_mem_territory u j) (he.own.resolve_right hF) he.known
    refine .perform ?_ ?_
    · rw [hm.unit, hcan', hcan]
    · rw [hm.unit, hreply]
      exact ih (hk K' _ hK hknown) hagrees
  | fork hlength _ _ ihunits ihk =>
    refine .fork hlength (fun i s rᵢ hs hrᵢ => ?_) ?_
    · exact ihunits i s rᵢ hs hrᵢ (hp.unit hs) (hw.mono (territory_child_subset u i j))
    · exact ihk (hp.2.2 K _ subset_rfl) (hw.mono (territory_anti (Nat.le_succ j)))

/-- A step elsewhere changes nothing for a process. -/
theorem Process.alone_frame (hF : ¬ F.shares) {p : Process (UnitResult × Machine)}
    {j : Nat} {K : Set Handle} {D : Set UnitId} {line? : Option String}
    (hp : p.Confined F u anyEnd j K) (hw : w.Agrees (territory u j) K w)
    (hg : w.Grows D line? w') (hD : Disjoint D (territory u j)) :
    p.Alone w' n r ↔ p.Alone w n r :=
  ⟨fun h => h.agrees hF hp (hw.frame hg hD).symm, fun h => h.agrees hF hp (hw.frame hg hD)⟩

namespace Task

variable {t t' : Task}

/-- The task, run alone, comes to the result `r` in `n` steps. -/
inductive Alone (w : World) : Task → Nat → UnitResult → Prop where
  | running {clock p n r} (h : Process.Alone w p n r) : Alone w (.running clock p) n r
  | waiting {f units k} {ns : Nat → Nat} {rs : List UnitResult} {n r} (hlength : rs.length = units.length)
      (hunits : ∀ (i : Nat) t rᵢ, units[i]? = some t → rs[i]? = some rᵢ → Alone w t (ns i) rᵢ)
      (hk : Process.Alone w (k rs) n r) :
      Alone w (.waiting f units k) (∑ i ∈ Finset.range units.length, ns i + n + 1) r
  | finished {clock r m} : Alone w (.finished clock r m) 0 r

theorem Alone.alike (hF : ¬ F.shares) (h : t.Alone w n r) (ha : Alike F w v u t) :
    t.Alone v n r := by
  induction h generalizing u with
  | running h =>
    cases ha with
    | running hp hw => exact .running (h.agrees hF hp hw)
  | waiting hlength _ hk ih =>
    cases ha with
    | waiting hk' hw hunits =>
      exact .waiting hlength (fun i t rᵢ ht hrᵢ => ih i t rᵢ ht hrᵢ (hunits i t ht))
        (hk.agrees hF (hk' _) hw)
  | finished => exact .finished

/-! ## Steps -/

/-- A step elsewhere changes nothing for a task. -/
theorem alone_frame (hF : ¬ F.shares) {D : Set UnitId} {line? : Option String}
    (ha : Alike F w w u t) (hg : w.Grows D line? w') (hD : Disjoint D (territory u 0)) :
    t.Alone w' n r ↔ t.Alone w n r :=
  ⟨fun h => h.alike hF (ha.frame hg hD).symm, fun h => h.alike hF (ha.frame hg hD)⟩

/-- One step more at one place. -/
theorem sum_update_succ {l i : Nat} (ns : Nat → Nat) (hi : i < l) :
    ∑ a ∈ Finset.range l, Function.update ns i (ns i + 1) a = ∑ a ∈ Finset.range l, ns a + 1 := by
  have hmem : i ∈ Finset.range l := Finset.mem_range.mpr hi
  rw [Finset.sum_update_of_mem hmem, Finset.sum_eq_add_sum_sdiff_singleton_of_mem hmem ns]
  omega

/-- Units that have all finished have come to their results, and have no step left. -/
theorem Alone.of_results? {units : List Task} {clock : Nat} {rs rs' : List UnitResult}
    {ns : Nat → Nat} (hrs : results? units = some (clock, rs)) (hlength : rs'.length = units.length)
    (hunits : ∀ (i : Nat) t rᵢ, units[i]? = some t → rs'[i]? = some rᵢ → t.Alone w (ns i) rᵢ) :
    rs' = rs ∧ ∑ i ∈ Finset.range units.length, ns i = 0 := by
  obtain ⟨hlength', hfinished⟩ := results?_eq_some hrs
  have hunit : ∀ i, i < units.length → ns i = 0 ∧ rs'[i]? = rs[i]? := fun i hi => by
    have ht := List.getElem?_eq_getElem hi
    have hr' := List.getElem?_eq_getElem (hlength.symm ▸ hi)
    obtain ⟨c, r, m, heq, hr⟩ := hfinished i _ ht
    have halone := hunits i _ _ ht hr'
    rw [heq] at halone
    rw [hr', hr]
    generalize ns i = n at halone ⊢
    cases halone
    exact ⟨rfl, rfl⟩
  refine ⟨List.ext_getElem? fun i => ?_, Finset.sum_eq_zero fun i hi => ?_⟩
  · by_cases hi : i < units.length
    · exact (hunit i hi).2
    · rw [List.getElem?_eq_none (by omega), List.getElem?_eq_none (by omega)]
  · exact (hunit i (Finset.mem_range.mp hi)).1

/-- A step of a running unit. -/
theorem alone_stepProcess {clock : Nat} {p : Process (UnitResult × Machine)} (h : p.Alone w N r)
    (hstep : stepProcess w clock p = some (t', w')) : ∃ n, N = n + 1 ∧ t'.Alone w' n r := by
  cases h with
  | done =>
    simp only [stepProcess, Option.some.injEq, Prod.mk.injEq] at hstep
    obtain ⟨rfl, rfl⟩ := hstep
    exact ⟨0, rfl, .finished⟩
  | perform hcan h =>
    simp only [stepProcess, if_pos hcan, Option.some.injEq, Prod.mk.injEq] at hstep
    obtain ⟨rfl, rfl⟩ := hstep
    exact ⟨_, rfl, .running h⟩
  | @fork _ f k ns rs n _ hlength hunits hk =>
    simp only [stepProcess, Option.some.injEq, Prod.mk.injEq] at hstep
    obtain ⟨rfl, rfl⟩ := hstep
    refine ⟨_, rfl, ?_⟩
    rw [← length_unitsFrom clock f 0 f.units] at hlength ⊢
    refine .waiting hlength (fun i t rᵢ ht hrᵢ => ?_) hk
    rw [getElem?_unitsFrom, Option.map_eq_some_iff, Nat.zero_add] at ht
    obtain ⟨s, hs, rfl⟩ := ht
    exact .running (hunits i s rᵢ hs hrᵢ)

/-- In front of a step of a running unit. -/
theorem alone_of_stepProcess {clock : Nat} {p : Process (UnitResult × Machine)}
    (h : t'.Alone w' n r) (hstep : stepProcess w clock p = some (t', w')) : p.Alone w (n + 1) r := by
  cases p with
  | done x =>
    obtain ⟨r', m⟩ := x
    simp only [stepProcess, Option.some.injEq, Prod.mk.injEq] at hstep
    obtain ⟨rfl, rfl⟩ := hstep
    cases h
    exact .done
  | perform m e k =>
    simp only [stepProcess] at hstep
    split at hstep
    · next hcan =>
      simp only [Option.some.injEq, Prod.mk.injEq] at hstep
      obtain ⟨rfl, rfl⟩ := hstep
      cases h with
      | running h => exact .perform hcan h
    · cases hstep
  | fork f k =>
    simp only [stepProcess, Option.some.injEq, Prod.mk.injEq] at hstep
    obtain ⟨rfl, rfl⟩ := hstep
    cases h with
    | waiting hlength hunits hk =>
      rw [length_unitsFrom] at hlength ⊢
      refine .fork hlength (fun i s rᵢ hs hrᵢ => ?_) hk
      have ht := getElem?_unitsFrom clock f 0 i f.units
      rw [hs, Nat.zero_add] at ht
      cases hunits i _ rᵢ ht hrᵢ with
      | running h => exact h
  | exhausted => cases hstep

/-- **A step forward.** Whichever unit goes on, behind the step there is one step less to go, to the same
result. -/
theorem Alone.step (hF : ¬ F.shares) {way : List Nat} (h : t.Alone w N r) (ha : Alike F w w u t)
    (hstep : stepAt w way t = some (t', w')) : ∃ n, N = n + 1 ∧ t'.Alone w' n r := by
  induction way generalizing u t t' N r with
  | nil =>
    cases h with
    | running h => exact alone_stepProcess h hstep
    | waiting hlength hunits hk =>
      obtain ⟨⟨clock, rs⟩, hrs, heq⟩ := Option.map_eq_some_iff.mp hstep
      obtain ⟨rfl, rfl⟩ := Prod.mk.inj heq
      obtain ⟨rfl, hsum⟩ := Alone.of_results? hrs hlength hunits
      exact ⟨_, by rw [hsum, Nat.zero_add], .running hk⟩
    | finished => cases hstep
  | cons i way ih =>
    cases h with
    | running => cases hstep
    | @waiting f units k ns rs n _ hlength hunits hk =>
      cases ha with
      | waiting hk' hw haunits =>
        obtain ⟨t₁, t₁', ht₁, hunit, rfl⟩ := stepAt_cons_eq_some.mp hstep
        have hi := (List.getElem?_eq_some_iff.mp ht₁).1
        -- The step is one of the unit at place `i`; for the others, and for what comes behind the
        -- fork, the world is as it was.
        have hgrows := ((haunits i t₁ ht₁).step_self hF hunit).2
        have hr₁ := List.getElem?_eq_getElem (hlength.symm ▸ hi)
        obtain ⟨n₁, hn₁, halone⟩ := ih (hunits i t₁ _ ht₁ hr₁) (haunits i t₁ ht₁) hunit
        have hsum := sum_update_succ (Function.update ns i n₁) hi
        rw [Function.update_self, Function.update_idem, ← hn₁, Function.update_eq_self] at hsum
        refine ⟨_, by rw [hsum, Nat.add_right_comm _ 1 n], ?_⟩
        have hset : (units.set i t₁').length = units.length := List.length_set
        rw [← hset]
        refine .waiting (by simpa using hlength) (fun a t₂ rₐ ht₂ hrₐ => ?_) ?_
        · rcases eq_or_of_getElem?_set ht₂ with ⟨rfl, rfl⟩ | ⟨hne, ht₂⟩
          · rw [Function.update_self]
            exact Option.some.inj (hr₁.symm.trans hrₐ) ▸ halone
          · rw [Function.update_of_ne (Ne.symm hne), alone_frame hF (haunits a t₂ ht₂) hgrows
              (disjoint_territory_units hne)]
            exact hunits a t₂ rₐ ht₂ hrₐ
        · exact (Process.alone_frame hF (hk' rs) hw hgrows (disjoint_territory_later _ _ _)).mpr hk
    | finished => cases hstep

/-- **A step backward.** In front of a step there is one step more to go. -/
theorem Alone.unstep (hF : ¬ F.shares) {way : List Nat} (h : t'.Alone w' n r)
    (ha : Alike F w w u t) (hstep : stepAt w way t = some (t', w')) : t.Alone w (n + 1) r := by
  induction way generalizing u t t' n r with
  | nil =>
    cases ha with
    | running => exact .running (alone_of_stepProcess h hstep)
    | @waiting _ _ _ f units k _ _ _ =>
      obtain ⟨⟨clock, rs⟩, hrs, heq⟩ := Option.map_eq_some_iff.mp hstep
      obtain ⟨rfl, rfl⟩ := Prod.mk.inj heq
      obtain ⟨hlength, hfinished⟩ := results?_eq_some hrs
      cases h with
      | running h =>
        -- The units have finished, so only the step itself is added.
        have hunits : ∀ (i : Nat) t rᵢ, units[i]? = some t → rs[i]? = some rᵢ → t.Alone w 0 rᵢ := by
          intro i t rᵢ ht hrᵢ
          obtain ⟨c, r, m, rfl, hr⟩ := hfinished i t ht
          exact Option.some.inj (hr.symm.trans hrᵢ) ▸ .finished
        have hwaiting : Alone w (.waiting f units k) _ r := .waiting hlength hunits h
        simpa using hwaiting
    | finished => cases hstep
  | cons i way ih =>
    cases ha with
    | running => cases hstep
    | @waiting _ _ _ f units k hk' hw haunits =>
      obtain ⟨t₁, t₁', ht₁, hunit, rfl⟩ := stepAt_cons_eq_some.mp hstep
      have hi := (List.getElem?_eq_some_iff.mp ht₁).1
      have hgrows := ((haunits i t₁ ht₁).step_self hF hunit).2
      cases h with
      | @waiting _ _ _ ns rs n _ hlength hunits hk =>
        rw [List.length_set] at hlength ⊢
        rw [Nat.add_right_comm _ n 1, ← sum_update_succ ns hi]
        refine .waiting hlength (fun a t₂ rₐ ht₂ hrₐ => ?_) ?_
        · by_cases heq : i = a
          · subst heq
            obtain rfl : t₁ = t₂ := Option.some.inj (ht₁.symm.trans ht₂)
            rw [Function.update_self]
            exact ih (hunits i t₁' rₐ (List.getElem?_set_self hi) hrₐ) (haunits i t₁ ht₁) hunit
          · rw [Function.update_of_ne (Ne.symm heq), ← alone_frame hF (haunits a t₂ ht₂) hgrows
              (disjoint_territory_units heq)]
            exact hunits a t₂ rₐ ((List.getElem?_set_ne heq).trans ht₂) hrₐ
        · exact (Process.alone_frame hF (hk' rs) hw hgrows (disjoint_territory_later _ _ _)).mp hk
    | finished => cases hstep

/-- **No schedule is stuck.** A task that has not finished has a unit that can go on. -/
theorem Alone.progress (h : t.Alone w n r) :
    (∃ clock m, t = .finished clock r m) ∨ ∃ way t' w', stepAt w way t = some (t', w') := by
  induction h with
  | running h =>
    refine .inr ⟨[], ?_⟩
    cases h with
    | done => exact ⟨_, _, rfl⟩
    | perform hcan _ =>
      exact ⟨_, _, if_pos hcan⟩
    | fork => exact ⟨_, _, rfl⟩
  | @waiting f units k ns rs n r hlength _ _ ih =>
    cases hrs : results? units with
    | some results =>
      refine .inr ⟨[], ?_⟩
      exact ⟨_, _, congrArg (Option.map _) hrs⟩
    | none =>
      obtain ⟨i, t, ht, hunfinished⟩ := exists_of_results?_eq_none hrs
      have hi := (List.getElem?_eq_some_iff.mp ht).1
      have hr := List.getElem?_eq_getElem (hlength.symm ▸ hi)
      rcases ih i t _ ht hr with ⟨clock, m, rfl⟩ | ⟨way, t', w', hstep⟩
      · exact absurd rfl (hunfinished _ _ _)
      · exact .inr ⟨i :: way, _, w', stepAt_cons_eq_some.mpr ⟨t, t', ht, hstep, rfl⟩⟩
  | finished => exact .inl ⟨_, _, rfl⟩

/-! ## Runs -/

/-- **Every run** has so many steps less to go, to the same result. -/
theorem Alone.follow (hF : ¬ F.shares) {ways : List (List Nat)} (h : t.Alone w N r)
    (ha : Alike F w w u t) (hrun : Task.follow ways t w = some (t', w')) :
    ∃ n, N = ways.length + n ∧ t'.Alone w' n r := by
  induction ways generalizing t w N with
  | nil =>
    obtain ⟨rfl, rfl⟩ := Prod.mk.inj (Option.some.inj hrun)
    exact ⟨N, by simp, h⟩
  | cons way ways ih =>
    obtain ⟨t₁, w₁, hstep, hrest⟩ := follow_cons.mp hrun
    obtain ⟨n₁, rfl, h₁⟩ := h.step hF ha hstep
    obtain ⟨n, rfl, h'⟩ := ih h₁ (ha.step_self hF hstep).1 hrest
    exact ⟨n, by rw [List.length_cons]; omega, h'⟩

/-- **One run to the end** says how the task ends. -/
theorem alone_of_follow (hF : ¬ F.shares) {ways : List (List Nat)} {clock : Nat} {m : Machine}
    (ha : Alike F w w u t) (hrun : Task.follow ways t w = some (.finished clock r m, w')) :
    t.Alone w ways.length r := by
  induction ways generalizing t w with
  | nil =>
    obtain ⟨rfl, -⟩ := Prod.mk.inj (Option.some.inj hrun)
    exact .finished
  | cons way ways ih =>
    obtain ⟨t₁, w₁, hstep, hrest⟩ := follow_cons.mp hrun
    exact (ih (ha.step_self hF hstep).1 hrest).unstep hF ha hstep

end Task

end ParLang
