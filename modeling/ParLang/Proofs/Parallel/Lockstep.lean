import ParLang.Proofs.Parallel.Worlds

/-!
# Units that keep to themselves

Where a fragment has only effects of a unit's own, no unit sees what the units beside it do.
`Task.Alike` says that two worlds agree for every unit of a task, each with the arrays that it knows.
Then a step that is possible in one of the worlds is possible in the other, to the same task
(`Task.Alike.step`), and a step elsewhere changes nothing (`Task.Alike.frame`).

So a unit of a parallel block runs as it would run alone (`Task.follow_waiting`): its turns are a
schedule of its own, which leads to the same task and prints the same lines.
-/

namespace ParLang

variable {F : Fragment} {w v w' v' : World} {u : UnitId} {t t' : Task}

/-- No condition on how a process ends. -/
def anyEnd {α : Type} (_ : Nat) (_ : Set Handle) (_ : α) : Prop := True

/-- A unit of a fragment, from a machine that fits. -/
theorem Exec.confined_anyEnd {n j : Nat} {K : Set Handle} {s : Stmt} {m : Machine} (hs : F.stmt s)
    (hm : F.Fits u j K m) : (Exec.runUnit n s m).Confined F u anyEnd j K :=
  (Exec.confined_runUnit hs u j K m subset_rfl hm).weaken fun _ _ _ _ _ => trivial

/-- The units of a fork are confined as the process that starts them. -/
theorem Process.Confined.unit {α : Type} {post : Nat → Set Handle → α → Prop} {f : Fork}
    {k : List UnitResult → Process α} {j : Nat} {K : Set Handle} {i : Nat} {s : Stmt}
    (h : (Process.fork f k).Confined F u post j K) (hs : f.units[i]? = some s) :
    (Exec.runUnit f.budget s (f.machine.child i)).Confined F ((j, i) :: u) anyEnd 0 K := by
  obtain ⟨hm, hforks, -⟩ := h
  exact Exec.confined_anyEnd (hforks.stmt (List.mem_of_getElem? hs)) (hm.child i)

namespace Task

/-- The worlds agree for every unit of the task. -/
inductive Alike (F : Fragment) (w v : World) : UnitId → Task → Prop where
  | running {u j K clock p} (hp : Process.Confined F u anyEnd j K p)
      (hw : w.Agrees (territory u j) K v) : Alike F w v u (.running clock p)
  | waiting {u j K f units k} (hk : ∀ rs, (k rs).Confined F u anyEnd (j + 1) K)
      (hw : w.Agrees (territory u (j + 1)) K v)
      (hunits : ∀ (i : Nat) t, units[i]? = some t → Alike F w v ((j, i) :: u) t) :
      Alike F w v u (.waiting f units k)
  | finished {u clock r m} : Alike F w v u (.finished clock r m)

/-- To be alike is symmetric. -/
theorem Alike.symm (h : Alike F w v u t) : Alike F v w u t := by
  induction h with
  | running hp hw => exact .running hp hw.symm
  | waiting hk hw _ ih => exact .waiting hk hw.symm ih
  | finished => exact .finished

/-! ## Steps -/

/-- A step elsewhere. -/
theorem Alike.frame {D : Set UnitId} {line? : Option String} (h : Alike F w v u t)
    (hg : v.Grows D line? v') (hD : Disjoint D (territory u 0)) : Alike F w v' u t := by
  induction h with
  | running hp hw =>
    exact .running hp (hw.frame hg (hD.mono_right (territory_anti (Nat.zero_le _))))
  | @waiting u j K f units k hk hw _ ih =>
    refine .waiting hk (hw.frame hg (hD.mono_right (territory_anti (Nat.zero_le _)))) ?_
    intro i t ht
    have hsub := (territory_child_subset u i j).trans (territory_anti (Nat.zero_le j))
    exact ih i t ht (hD.mono_right hsub)
  | finished => exact .finished

/-- The same for a step that is made in the first of the worlds. -/
theorem Alike.frame_left {D : Set UnitId} {line? : Option String} (h : Alike F w v u t)
    (hg : w.Grows D line? w') (hD : Disjoint D (territory u 0)) : Alike F w' v u t :=
  (h.symm.frame hg hD).symm

/-- One step of a running unit. -/
theorem alike_stepProcess (hF : ¬ F.shares) {j clock : Nat} {K : Set Handle}
    {p : Process (UnitResult × Machine)} (hp : p.Confined F u anyEnd j K)
    (hw : w.Agrees (territory u j) K v) (hstep : stepProcess w clock p = some (t', w')) :
    ∃ v', stepProcess v clock p = some (t', v') ∧ Alike F w' v' u t' ∧
      w.Grows (territory u 0) (lineAt? [] (.running clock p)) w' ∧
      v.Grows (territory u 0) (lineAt? [] (.running clock p)) v' := by
  cases p with
  | done r =>
    obtain ⟨r, m⟩ := r
    simp only [stepProcess, Option.some.injEq, Prod.mk.injEq] at hstep
    obtain ⟨rfl, rfl⟩ := hstep
    exact ⟨v, rfl, .finished, .refl _ _, .refl _ _⟩
  | perform m e k =>
    obtain ⟨hm, he, hk⟩ := hp
    have hown : e.isOwn = true := he.own.resolve_right hF
    obtain ⟨hcan, hreply, K', hK, hknown, hagrees⟩ :=
      hw.answer (self_mem_territory u j) hown he.known
    have hsub : {u} ⊆ territory u 0 := Set.singleton_subset_iff.mpr (self_mem_territory u 0)
    simp only [stepProcess, hm.unit] at hstep ⊢
    split at hstep
    · next hcan' =>
      simp only [Option.some.injEq, Prod.mk.injEq] at hstep
      obtain ⟨rfl, rfl⟩ := hstep
      refine ⟨(v.answer u e).2, ?_, .running (hk K' _ hK hknown) hagrees,
        (World.grows_answer hown).mono hsub, (World.grows_answer hown).mono hsub⟩
      rw [hcan, if_pos hcan', hreply]
    · cases hstep
  | fork f k =>
    simp only [stepProcess, Option.some.injEq, Prod.mk.injEq] at hstep
    obtain ⟨rfl, rfl⟩ := hstep
    refine ⟨v, rfl, .waiting (j := j) (fun rs => hp.2.2 K rs subset_rfl)
      (hw.mono (territory_anti (Nat.le_succ j))) fun i t ht => ?_, .refl _ _, .refl _ _⟩
    rw [getElem?_unitsFrom, Option.map_eq_some_iff, Nat.zero_add] at ht
    obtain ⟨s, hs, rfl⟩ := ht
    exact .running (hp.unit hs) (hw.mono (territory_child_subset u i j))
  | exhausted => cases hstep

/-- **A step in two worlds.** Where they agree, the step that is possible in one of them is possible in
the other, leads to the same task and prints the same line, and they still agree. -/
theorem Alike.step (hF : ¬ F.shares) {way : List Nat} (h : Alike F w v u t)
    (hstep : stepAt w way t = some (t', w')) :
    ∃ v', stepAt v way t = some (t', v') ∧ Alike F w' v' u t' ∧
      w.Grows (territory u 0) (lineAt? way t) w' ∧ v.Grows (territory u 0) (lineAt? way t) v' := by
  induction way generalizing u t t' with
  | nil =>
    cases h with
    | running hp hw => exact alike_stepProcess hF hp hw hstep
    | waiting hk hw hunits =>
      obtain ⟨⟨clock, rs⟩, hrs, heq⟩ := Option.map_eq_some_iff.mp hstep
      obtain ⟨rfl, rfl⟩ := Prod.mk.inj heq
      refine ⟨v, ?_, .running (hk rs) hw, .refl _ _, .refl _ _⟩
      exact congrArg (Option.map _) hrs
    | finished => cases hstep
  | cons i way ih =>
    cases h with
    | running hp hw => cases hstep
    | @waiting _ j _ f units k hk hw hunits =>
      obtain ⟨t₁, t₁', ht₁, hunit, rfl⟩ := stepAt_cons_eq_some.mp hstep
      obtain ⟨v', hunit', halike, hgrows, hgrows'⟩ := ih (hunits i t₁ ht₁) hunit
      have hlater := disjoint_territory_later u i j
      have hsub := (territory_child_subset u i j).trans (territory_anti (Nat.zero_le j))
      refine ⟨v', stepAt_cons_eq_some.mpr ⟨t₁, t₁', ht₁, hunit', rfl⟩, ?_, ?_, ?_⟩
      · refine .waiting hk ((hw.frame hgrows' hlater).frame_left hgrows hlater) fun i' t₂ ht₂ => ?_
        rcases eq_or_of_getElem?_set ht₂ with ⟨rfl, rfl⟩ | ⟨hne, ht₂⟩
        · exact halike
        · have hunits' := disjoint_territory_units (u := u) (j := j) hne
          exact ((hunits i' t₂ ht₂).frame hgrows' hunits').frame_left hgrows hunits'
      · exact lineAt?_cons way ht₁ ▸ hgrows.mono hsub
      · exact lineAt?_cons way ht₁ ▸ hgrows'.mono hsub
    | finished => cases hstep

/-- The same in one world. -/
theorem Alike.step_self (hF : ¬ F.shares) {way : List Nat} (h : Alike F w w u t)
    (hstep : stepAt w way t = some (t', w')) :
    Alike F w' w' u t' ∧ w.Grows (territory u 0) (lineAt? way t) w' := by
  obtain ⟨v', hstep', halike, hgrows, -⟩ := h.step hF hstep
  obtain rfl := (Prod.mk.inj (Option.some.inj (hstep.symm.trans hstep'))).2
  exact ⟨halike, hgrows⟩

/-- **What a run prints** is behind what was printed before. -/
theorem Alike.output_eq (hF : ¬ F.shares) {ways : List (List Nat)} (h : Alike F w w u t)
    (hrun : follow ways t w = some (t', w')) :
    w'.output = w.output.printed ((lines ways t w).map Prod.snd) := by
  induction ways generalizing t w with
  | nil =>
    obtain ⟨-, rfl⟩ := Prod.mk.inj (Option.some.inj hrun)
    rfl
  | cons way ways ih =>
    obtain ⟨t₁, w₁, hstep, hrest⟩ := follow_cons.mp hrun
    obtain ⟨halike, hgrows⟩ := h.step_self hF hstep
    rw [ih halike hrest, hgrows.output, lines_cons hstep, List.map_append, ← Sink.printed_append]
    simp

/-! ## Units of a block -/

/-- Where a unit that waits for units stands, when they have come to `units`: it waits still, or has
their results. -/
inductive Behind (f : Fork) (k : List UnitResult → Process (UnitResult × Machine))
    (units : List Task) : Task → Prop where
  | waiting : Behind f k units (.waiting f units k)
  | resumed {clock rs} (hrs : results? units = some (clock, rs)) :
      Behind f k units (.running clock (k rs))
  | ended {clock rs r m} (hrs : results? units = some (clock, rs)) (hk : k rs = .done (r, m)) :
      Behind f k units (.finished clock r m)

/-- A unit that is done prints no more. -/
theorem lines_done (clock : Nat) (r : UnitResult) (m : Machine) (ways : List (List Nat)) :
    lines ways (.running clock (.done (r, m))) w = [] := by
  have hfinished : ∀ ways, lines ways (.finished clock r m) w = [] := fun ways => by
    cases ways with
    | nil => rfl
    | cons way ways => cases way <;> rfl
  cases ways with
  | nil => rfl
  | cons way ways =>
    cases way with
    | nil => exact (lines_cons rfl).trans (hfinished ways)
    | cons i way => rfl

/-- A process at its end has one step to make. -/
theorem follow_done {clock : Nat} {r : UnitResult} {m : Machine} {ways : List (List Nat)}
    (hrun : follow ways (.running clock (.done (r, m))) w = some (t', w')) :
    (t' = .running clock (.done (r, m)) ∨ t' = .finished clock r m) ∧
      ∀ i, turnsOf i ways = [] := by
  cases ways with
  | nil =>
    obtain ⟨rfl, -⟩ := Prod.mk.inj (Option.some.inj hrun)
    exact ⟨.inl rfl, fun _ => rfl⟩
  | cons way ways =>
    obtain ⟨t₁, w₁, hstep, hrest⟩ := follow_cons.mp hrun
    cases way with
    | cons i way => cases hstep
    | nil =>
      obtain ⟨rfl, rfl⟩ := Prod.mk.inj (Option.some.inj hstep)
      cases ways with
      | nil =>
        obtain ⟨rfl, -⟩ := Prod.mk.inj (Option.some.inj hrest)
        exact ⟨.inr rfl, fun _ => rfl⟩
      | cons way ways =>
        obtain ⟨_, _, hstep, -⟩ := follow_cons.mp hrest
        cases way <;> cases hstep

/-- Only units of a block print lines. -/
theorem mem_lines_waiting {f : Fork} {units : List Task}
    {k : List UnitResult → Process (UnitResult × Machine)} (hk : ∀ rs, ∃ r m, k rs = .done (r, m))
    {ways : List (List Nat)} {l : List Nat × String}
    (hl : l ∈ lines ways (.waiting f units k) w) : ∃ i way, l.1 = i :: way ∧ i < units.length := by
  induction ways generalizing units w with
  | nil => simp [lines] at hl
  | cons way ways ih =>
    cases hstep : stepAt w way (.waiting f units k) with
    | none => simp [lines, hstep] at hl
    | some next =>
      obtain ⟨t₁, w₁⟩ := next
      rw [lines_cons hstep, List.mem_append] at hl
      cases way with
      | nil =>
        obtain ⟨⟨clock, rs⟩, -, heq⟩ := Option.map_eq_some_iff.mp hstep
        obtain ⟨rfl, rfl⟩ := Prod.mk.inj heq
        obtain ⟨r, m, hdone⟩ := hk rs
        rw [hdone, lines_done] at hl
        simp [lineAt?, effectAt?] at hl
      | cons i way =>
        obtain ⟨u, u', hu, -, rfl⟩ := stepAt_cons_eq_some.mp hstep
        rcases hl with hl | hl
        · obtain ⟨line, -, rfl⟩ := List.mem_map.mp hl
          exact ⟨i, way, rfl, (List.getElem?_eq_some_iff.mp hu).1⟩
        · obtain ⟨i', way', heq, hlt⟩ := ih hl
          exact ⟨i', way', heq, by rwa [List.length_set] at hlt⟩

/-- **Units of a block run as they run alone**, each in a world of its own and under its own turns, for
a block behind which nothing comes but its end. -/
theorem follow_waiting (hF : ¬ F.shares) {j : Nat} {f : Fork} {units : List Task}
    {k : List UnitResult → Process (UnitResult × Machine)} (hk : ∀ rs, ∃ r m, k rs = .done (r, m))
    (alone : Nat → World)
    (hunits : ∀ (i : Nat) t, units[i]? = some t → Alike F w (alone i) ((j, i) :: u) t)
    {ways : List (List Nat)} (hrun : follow ways (.waiting f units k) w = some (t', w')) :
    ∃ units', Behind f k units' t' ∧ units'.length = units.length ∧
      ∀ (i : Nat) t, units[i]? = some t → ∃ tᵢ wᵢ, units'[i]? = some tᵢ ∧
        follow (turnsOf i ways) t (alone i) = some (tᵢ, wᵢ) ∧
        lines (turnsOf i ways) t (alone i) = linesOf i (lines ways (.waiting f units k) w) := by
  induction ways generalizing units w alone with
  | nil =>
    obtain ⟨rfl, rfl⟩ := Prod.mk.inj (Option.some.inj hrun)
    exact ⟨units, .waiting, rfl, fun i t ht => ⟨t, alone i, ht, rfl, rfl⟩⟩
  | cons way ways ih =>
    obtain ⟨t₁, w₁, hstep, hrest⟩ := follow_cons.mp hrun
    rw [lines_cons hstep]
    cases way with
    | nil =>
      obtain ⟨⟨clock, rs⟩, hrs, heq⟩ := Option.map_eq_some_iff.mp hstep
      obtain ⟨rfl, rfl⟩ := Prod.mk.inj heq
      obtain ⟨r, m, hdone⟩ := hk rs
      rw [hdone] at hrest ⊢
      obtain ⟨hend, hturns⟩ := follow_done hrest
      refine ⟨units, ?_, rfl, fun i t ht => ⟨t, alone i, ht, ?_, ?_⟩⟩
      · rcases hend with rfl | rfl
        · exact hdone ▸ .resumed hrs
        · exact .ended hrs hdone
      · rw [turnsOf_own, hturns]
        rfl
      · rw [turnsOf_own, hturns, lines_done]
        rfl
    | cons a way =>
      obtain ⟨t₀, t₀', ht₀, hunit, rfl⟩ := stepAt_cons_eq_some.mp hstep
      have hlt := (List.getElem?_eq_some_iff.mp ht₀).1
      obtain ⟨v₀, hunit', halike, hgrows, -⟩ := (hunits a t₀ ht₀).step hF hunit
      -- The unit that takes the turn takes it in its own world too; the others stay where they are.
      have hunits' : ∀ (i : Nat) t, (units.set a t₀')[i]? = some t →
          Alike F w₁ (Function.update alone a v₀ i) ((j, i) :: u) t := fun i t ht => by
        rcases eq_or_of_getElem?_set ht with ⟨rfl, rfl⟩ | ⟨hne, ht⟩
        · rwa [Function.update_self]
        · rw [Function.update_of_ne (Ne.symm hne)]
          exact (hunits i t ht).frame_left hgrows (disjoint_territory_units hne)
      obtain ⟨units', hbehind, hlength, hrun'⟩ := ih _ hunits' hrest
      refine ⟨units', hbehind, by rw [hlength, List.length_set], fun i t ht => ?_⟩
      by_cases heq : a = i
      · subst heq
        obtain rfl : t₀ = t := Option.some.inj (ht₀.symm.trans ht)
        obtain ⟨tᵢ, wᵢ, htᵢ, hfollow, hlines⟩ := hrun' a t₀' (List.getElem?_set_self hlt)
        rw [Function.update_self] at hfollow hlines
        refine ⟨tᵢ, wᵢ, htᵢ, ?_, ?_⟩
        · rw [turnsOf_self]
          exact follow_cons.mpr ⟨t₀', v₀, hunit', hfollow⟩
        · rw [turnsOf_self, lines_cons hunit', hlines, linesOf_append, lineAt?_cons way ht₀,
            linesOf_self]
      · obtain ⟨tᵢ, wᵢ, htᵢ, hfollow, hlines⟩ := hrun' i t ((List.getElem?_set_ne heq).trans ht)
        rw [Function.update_of_ne (Ne.symm heq)] at hfollow hlines
        refine ⟨tᵢ, wᵢ, htᵢ, ?_, ?_⟩
        · rwa [turnsOf_of_ne heq]
        · rw [turnsOf_of_ne heq, hlines, linesOf_append, linesOf_of_ne heq, List.nil_append]

end Task

end ParLang
