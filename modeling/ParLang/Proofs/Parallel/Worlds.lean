import ParLang.Proofs.Execution.Rooted
import ParLang.Proofs.Execution.Schedule

/-!
# Worlds that a unit cannot tell apart

Each unit makes its arrays in a region of its own, and its regions and those of the units below it are
its `territory`. Two worlds agree for a unit (`World.Agrees`) when they have the same arrays that it
knows and the same regions in its territory: they answer it alike, and go on to agree
(`World.Agrees.answer`). What a unit does only adds to its own territory and to the output
(`World.Grows`), so worlds that agree for another unit still do (`World.Agrees.frame`).
-/

namespace ParLang

/-! ## Territories -/

/-- The regions of the unit `u` and of the units below it from its `j`th parallel block on. -/
def territory (u : UnitId) (j : Nat) : Set UnitId :=
  {v | v = u ∨ ∃ a i, j ≤ a ∧ (a, i) :: u <:+ v}

section Territory

variable {u v : UnitId} {i i' j j' : Nat}

/-- A unit is in its own territory. -/
theorem self_mem_territory (u : UnitId) (j : Nat) : u ∈ territory u j :=
  .inl rfl

/-- In the territory of a unit are units below it. -/
theorem suffix_of_mem_territory (h : v ∈ territory u j) : u <:+ v := by
  rcases h with rfl | ⟨a, i, -, h⟩
  · exact List.suffix_rfl
  · exact (List.suffix_cons _ _).trans h

/-- From a later block on the territory is smaller. -/
theorem territory_anti (hj : j ≤ j') : territory u j' ⊆ territory u j := by
  rintro v (rfl | ⟨a, i, ha, h⟩)
  · exact self_mem_territory _ _
  · exact .inr ⟨a, i, hj.trans ha, h⟩

/-- The territory of a unit below is a part of the territory. -/
theorem territory_child_subset (u : UnitId) (i j : Nat) :
    territory ((j, i) :: u) 0 ⊆ territory u j :=
  fun _ h => .inr ⟨j, i, le_rfl, suffix_of_mem_territory h⟩

/-- There is one way down from a unit to one below it. -/
theorem eq_of_cons_suffix {a b : Nat × Nat} (ha : a :: u <:+ v) (hb : b :: u <:+ v) : a = b := by
  have hsuffix : a :: u <:+ b :: u := List.suffix_of_suffix_length_le ha hb (by simp)
  exact (List.cons.inj (hsuffix.eq_of_length (by simp))).1

/-- Units of one block have nothing in common. -/
theorem disjoint_territory_units (h : i ≠ i') :
    Disjoint (territory ((j, i) :: u) 0) (territory ((j, i') :: u) 0) := by
  refine Set.disjoint_left.mpr fun v hv hv' => h ?_
  have heq := eq_of_cons_suffix (suffix_of_mem_territory hv) (suffix_of_mem_territory hv')
  exact (Prod.mk.inj heq).2

/-- A unit of one block has nothing in common with those of later blocks, nor with the unit that starts
them. -/
theorem disjoint_territory_later (u : UnitId) (i j : Nat) :
    Disjoint (territory ((j, i) :: u) 0) (territory u (j + 1)) := by
  refine Set.disjoint_left.mpr fun v hv hv' => ?_
  have hunit := suffix_of_mem_territory hv
  rcases hv' with rfl | ⟨a, i', ha, hlater⟩
  · have hlength := hunit.length_le
    rw [List.length_cons] at hlength
    omega
  · have heq := (Prod.mk.inj (eq_of_cons_suffix hunit hlater)).1
    omega

end Territory

/-! ## Regions -/

namespace Heap

variable {heap heap' : Heap} {unit : UnitId}

/-- What an allocation does depends on the unit's region alone. -/
theorem addIn_eq (unit : UnitId) (items : Array Value) {regions regions' : List _}
    (h : regionIn unit regions' = regionIn unit regions) :
    (addIn unit items regions').1 = (addIn unit items regions).1 ∧
      regionIn unit (addIn unit items regions').2 = regionIn unit (addIn unit items regions).2 := by
  have hview : ∀ regions, (addIn unit items regions).1 = ((regionIn unit regions).getD #[]).size ∧
      regionIn unit (addIn unit items regions).2 =
        some (((regionIn unit regions).getD #[]).push items) := by
    intro regions
    induction regions with
    | nil => simp [addIn, regionIn]
    | cons region rest ih =>
      obtain ⟨u, arrays⟩ := region
      by_cases hu : u = unit
      · simp [addIn, regionIn, hu]
      · simpa [addIn, regionIn, hu] using ih
  rw [(hview regions').1, (hview regions').2, (hview regions).1, (hview regions).2, h]
  exact ⟨rfl, rfl⟩

/-- The heaps have the same arrays of `K`. -/
def SameOn (K : Set Handle) (heap heap' : Heap) : Prop :=
  ∀ h ∈ K, heap'.get? h = heap.get? h

/-- **Questions about known arrays have the same answers.** -/
theorem SameOn.answer_eq {K : Set Handle} (h : SameOn K heap heap') {q : Query} (hq : q.arrays ⊆ K) :
    heap'.answer q = heap.answer q := by
  cases q with
  | length a => simp only [answer, length, h a (hq rfl)]
  | cell a i => simp only [answer, cell?, h a (hq rfl)]
  | items a => simp only [answer, items, h a (hq rfl)]

/-- To have the same arrays is symmetric. -/
theorem SameOn.symm {K : Set Handle} (h : SameOn K heap heap') : SameOn K heap' heap :=
  fun handle hh => (h handle hh).symm

/-- What is known in one heap is known in another one that has the same arrays. -/
theorem Closed.sameOn {K : Set Handle} (h : heap.Closed K) (hsame : SameOn K heap heap') :
    heap'.Closed K := by
  intro handle hh
  obtain ⟨cells, hcells, hK⟩ := h handle hh
  exact ⟨cells, (hsame handle hh).trans hcells, hK⟩

end Heap

/-! ## Sinks -/

namespace Sink

/-- A line leaves the limit of the sink as it is. -/
@[simp] theorem limit?_writeLine (s : Sink) (line : String) :
    (s.writeLine line).2.limit? = s.limit? := by
  rw [writeLine, write]
  split
  · rfl
  · split <;> rfl

/-- So do lines. -/
@[simp] theorem limit?_printed (s : Sink) (lines : List String) :
    (s.printed lines).limit? = s.limit? := by
  induction lines generalizing s with
  | nil => rfl
  | cons line rest ih => exact (ih _).trans (limit?_writeLine s line)

/-- Where there is always room a line is written. -/
theorem writeLine_eq {s : Sink} (h : s.limit? = none) (line : String) :
    s.writeLine line = (.ok (), s.printed [line]) := by
  have hok : (s.writeLine line).1 = .ok () := by
    rw [writeLine, write, h]
  exact Prod.ext hok rfl

end Sink

/-! ## Worlds -/

namespace World

variable {D D' : Set UnitId} {K : Set Handle} {w v w' v' : World} {line? : Option String}

/-- A unit that knows the arrays `K` and has the territory `D` cannot tell the worlds apart. Their sinks
have room for everything, and they find the same matches. -/
structure Agrees (D : Set UnitId) (K : Set Handle) (w v : World) : Prop where
  closed : w.heap.Closed K
  same : Heap.SameOn K w.heap v.heap
  region : ∀ u ∈ D, Heap.regionIn u v.heap.regions = Heap.regionIn u w.heap.regions
  left : w.output.limit? = none
  right : v.output.limit? = none
  matcher : v.matcher = w.matcher

/-- The second world is the first one with more arrays in the territory `D` and at most a line more. -/
structure Grows (D : Set UnitId) (line? : Option String) (w w' : World) : Prop where
  kept : ∀ h cells, w.heap.get? h = some cells → w'.heap.get? h = some cells
  region : ∀ u ∉ D, Heap.regionIn u w'.heap.regions = Heap.regionIn u w.heap.regions
  output : w'.output = w.output.printed line?.toList
  matcher : w'.matcher = w.matcher

/-- Nothing more is in the world than before. -/
theorem Grows.refl (D : Set UnitId) (w : World) : w.Grows D none w :=
  ⟨fun _ _ h => h, fun _ _ => rfl, rfl, rfl⟩

/-- The territory may be described more largely. -/
theorem Grows.mono (h : w.Grows D line? w') (hD : D ⊆ D') : w.Grows D' line? w' :=
  ⟨h.kept, fun u hu => h.region u fun hmem => hu (hD hmem), h.output, h.matcher⟩

/-- A world agrees with itself where there is room and what is known is closed. -/
theorem Agrees.refl (D : Set UnitId) (h : w.heap.Closed K) (hw : w.output.limit? = none) :
    Agrees D K w w :=
  ⟨h, fun _ _ => rfl, fun _ _ => rfl, hw, hw, rfl⟩

/-- To agree is symmetric. -/
theorem Agrees.symm (h : Agrees D K w v) : Agrees D K v w :=
  ⟨h.closed.sameOn h.same, h.same.symm, fun u hu => (h.region u hu).symm, h.right, h.left,
    h.matcher.symm⟩

/-- The territory in which worlds agree may be made smaller. -/
theorem Agrees.mono (h : Agrees D K w v) (hD : D' ⊆ D) : Agrees D' K w v :=
  ⟨h.closed, h.same, fun u hu => h.region u (hD hu), h.left, h.right, h.matcher⟩

/-- **What happens elsewhere.** Worlds that agree for a unit still do when another unit has made a
step in one of them. -/
theorem Agrees.frame (h : Agrees D K w v) (hg : v.Grows D' line? v') (hD : Disjoint D' D) :
    Agrees D K w v' where
  closed := h.closed
  same handle hh := by
    obtain ⟨cells, hcells, -⟩ := h.closed handle hh
    rw [hcells]
    exact hg.kept handle cells ((h.same handle hh).trans hcells)
  region u hu := (hg.region u (Set.disjoint_right.mp hD hu)).trans (h.region u hu)
  left := h.left
  right := by rw [hg.output, Sink.limit?_printed, h.right]
  matcher := hg.matcher.trans h.matcher

/-- The same for a step that is made in the first of the worlds. -/
theorem Agrees.frame_left (h : Agrees D K w v) (hg : w.Grows D' line? w') (hD : Disjoint D' D) :
    Agrees D K w' v :=
  (h.symm.frame hg hD).symm

/-! ## Answers -/

/-- An effect of a unit's own adds to its own region. -/
theorem grows_answer {u : UnitId} {e : Effect} (he : e.isOwn = true) :
    w.Grows {u} e.line? (w.answer u e).2 := by
  cases e with
  | alloc items =>
    refine ⟨fun h cells hcells => ?_, fun v hv => ?_, rfl, rfl⟩
    · have hne : h ≠ (w.heap.alloc u items.toArray).1 := by
        rintro rfl
        rw [Heap.get?_alloc_fresh] at hcells
        cases hcells
      exact (Heap.get?_alloc _ _ _ _).trans ((if_neg hne).trans hcells)
    · exact Heap.regionIn_addIn_of_ne _ _ hv
  | emit line => exact ⟨fun _ _ h => h, fun _ _ => rfl, rfl, rfl⟩
  | pause _ | inspect _ | sleep _ | share _ | search _ _ => exact .refl _ _
  | _ => cases he

/-- **Worlds that agree answer alike**, and agree behind the answer, also about the arrays that it
gives. -/
theorem Agrees.answer {u : UnitId} {e : Effect} (h : Agrees D K w v) (hu : u ∈ D)
    (he : e.isOwn = true) (hK : e.arrays ⊆ K) :
    v.canAnswer u e = w.canAnswer u e ∧ (v.answer u e).1 = (w.answer u e).1 ∧
      ∃ K', K ⊆ K' ∧ e.replyArrays (w.answer u e).1 ⊆ K' ∧
        Agrees D K' (w.answer u e).2 (v.answer u e).2 := by
  cases e with
  | inspect q =>
    exact ⟨rfl, h.same.answer_eq hK, K, subset_rfl, h.closed.answer hK, h⟩
  | alloc items =>
    obtain ⟨hserial, hregion⟩ := Heap.addIn_eq u items.toArray (h.region u hu)
    have hhandle : (v.heap.alloc u items.toArray).1 = (w.heap.alloc u items.toArray).1 := by
      simp only [Heap.alloc, hserial]
    refine ⟨rfl, hhandle, insert (w.heap.alloc u items.toArray).1 K, Set.subset_insert _ _,
      Set.singleton_subset_iff.mpr (Set.mem_insert _ _), h.closed.alloc u hK, ?_, ?_, h.left, h.right,
      h.matcher⟩
    · intro handle hh
      simp only [World.answer, Heap.get?_alloc, hhandle]
      split
      · rfl
      · next hne => exact h.same handle (hh.resolve_left hne)
    · intro u' hu'
      by_cases heq : u' = u
      · subst heq
        exact hregion
      · simp only [World.answer, Heap.alloc, Heap.regionIn_addIn_of_ne _ _ heq, h.region u' hu']
  | emit line =>
    refine ⟨rfl, ?_, K, subset_rfl, Set.empty_subset _, h.closed, h.same, h.region, ?_, ?_, h.matcher⟩
    · simp only [World.answer, Sink.writeLine_eq h.left, Sink.writeLine_eq h.right]
    · exact (Sink.limit?_writeLine _ _).trans h.left
    · exact (Sink.limit?_writeLine _ _).trans h.right
  | search pattern text =>
    exact ⟨rfl, congrFun (congrFun h.matcher pattern) text, K, subset_rfl, Set.empty_subset _, h⟩
  | pause _ | sleep _ | share _ => exact ⟨rfl, rfl, K, subset_rfl, Set.empty_subset _, h⟩
  | _ => cases he

end World

end ParLang
