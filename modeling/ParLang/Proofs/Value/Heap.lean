import ParLang.Value.Heap

/-!
# What the heap holds after an operation

`Heap.get?` is the view of the heap: one equation says what it gives after an allocation, one what it
gives after a cell is set. An allocation gives a handle that had no array, so handles never clash,
not even those of different units.
-/

namespace ParLang

namespace Heap

variable {unit other : UnitId} {items : Array Value} {regions : List (UnitId × Array (Array Value))}

/-- In the empty heap there is no array. -/
@[simp] theorem get?_empty (h : Handle) : empty.get? h = none := rfl

/-! ## Allocation -/

/-- The number that a new array gets is that of no array of the unit. -/
theorem regionIn_bind_addIn_fst :
    (regionIn unit regions).bind (·[(addIn unit items regions).1]?) = none := by
  induction regions with
  | nil => rfl
  | cons region rest ih =>
    obtain ⟨u, arrays⟩ := region
    by_cases h : u = unit
    · simp [regionIn, addIn, h]
    · simpa [regionIn, addIn, h] using ih

/-- A new array is the last one of its region. -/
theorem regionIn_addIn_self (unit : UnitId) (items : Array Value)
    (regions : List (UnitId × Array (Array Value))) :
    ∃ arrays, regionIn unit (addIn unit items regions).2 = some arrays ∧
      ∀ i, arrays[i]? = if i = (addIn unit items regions).1 then some items
        else (regionIn unit regions).bind (·[i]?) := by
  induction regions with
  | nil =>
    refine ⟨#[items], by simp [addIn, regionIn], fun i => ?_⟩
    cases i <;> simp [addIn, regionIn]
  | cons region rest ih =>
    obtain ⟨u, arrays⟩ := region
    by_cases h : u = unit
    · exact ⟨arrays.push items, by simp [addIn, regionIn, h],
        fun i => by simp [addIn, regionIn, h, Array.getElem?_push]⟩
    · simpa [addIn, regionIn, h] using ih

/-- No other region is touched. -/
theorem regionIn_addIn_of_ne (items : Array Value) (regions : List (UnitId × Array (Array Value)))
    (hne : other ≠ unit) :
    regionIn other (addIn unit items regions).2 = regionIn other regions := by
  induction regions with
  | nil => simp [addIn, regionIn, Ne.symm hne]
  | cons region rest ih =>
    obtain ⟨u, arrays⟩ := region
    by_cases h : u = unit
    · simp [addIn, regionIn, h, Ne.symm hne]
    · by_cases h' : u = other
      · subst h'
        simp [addIn, regionIn, h]
      · simp [addIn, regionIn, h, h', ih]

/-- A new array has a handle that no array had. -/
theorem get?_alloc_fresh (heap : Heap) (unit : UnitId) (items : Array Value) :
    heap.get? (heap.alloc unit items).1 = none :=
  regionIn_bind_addIn_fst

/-- After an allocation the new handle has the new cells, and every other handle what it had. -/
theorem get?_alloc (heap : Heap) (unit : UnitId) (items : Array Value) (h : Handle) :
    (heap.alloc unit items).2.get? h =
      if h = (heap.alloc unit items).1 then some items else heap.get? h := by
  obtain ⟨owner, serial⟩ := h
  by_cases hu : owner = unit
  · subst hu
    obtain ⟨arrays, hregion, hcells⟩ :=
      regionIn_addIn_self owner items heap.regions
    simp only [get?, alloc, hregion, Option.bind_some, hcells, Handle.mk.injEq, true_and]
  · have hregion := regionIn_addIn_of_ne items heap.regions hu
    simp [get?, alloc, hregion, hu]

/-- A new array has the length of its items. -/
theorem length_alloc (heap : Heap) (unit : UnitId) (items : Array Value) :
    (heap.alloc unit items).2.length (heap.alloc unit items).1 = items.size := by
  rw [length, get?_alloc, if_pos rfl, Option.map_some, Option.getD_some]

/-! ## Setting a cell -/

/-- A change of one region is seen in that one alone. -/
theorem regionIn_updateIn (f : Array (Array Value) → Array (Array Value)) :
    regionIn other (updateIn unit f regions) =
      if other = unit then (regionIn unit regions).map f else regionIn other regions := by
  induction regions with
  | nil => simp [updateIn, regionIn]
  | cons region rest ih =>
    obtain ⟨u, arrays⟩ := region
    by_cases h : u = unit
    · subst h
      by_cases h' : other = u
      · simp [updateIn, regionIn, h']
      · simp [updateIn, regionIn, h', Ne.symm h']
    · by_cases h' : other = unit
      · subst h'
        simp only [if_true] at ih
        simp [updateIn, regionIn, h, ih]
      · simp only [h', if_false] at ih ⊢
        by_cases h'' : u = other
        · subst h''
          simp [updateIn, regionIn, h]
        · simp [updateIn, regionIn, h, h'', ih]

/-- After a cell is set its array has the new cell, and every other handle what it had. -/
theorem get?_setCell (heap : Heap) (h : Handle) (i : Nat) (v : Value) (h' : Handle) :
    (heap.setCell h i v).get? h' =
      if h' = h then (heap.get? h).map (·.setIfInBounds i v) else heap.get? h' := by
  obtain ⟨owner, serial⟩ := h
  obtain ⟨owner', serial'⟩ := h'
  simp only [get?, setCell, regionIn_updateIn, Handle.mk.injEq]
  by_cases ho : owner' = owner
  · subst ho
    cases hr : regionIn owner' heap.regions with
    | none => simp
    | some arrays =>
      by_cases hs : serial' = serial
      · subst hs
        simp [Array.getElem?_modify]
      · simp [Array.getElem?_modify, hs, Ne.symm hs]
  · simp [ho]

/-- After a cell is set it has the new value, and every other cell what it had. -/
theorem cell?_setCell {heap : Heap} {h : Handle} {i : Nat} (hi : i < heap.length h) (v : Value)
    (h' : Handle) (j : Nat) :
    (heap.setCell h i v).cell? h' j = if h' = h ∧ j = i then some v else heap.cell? h' j := by
  rw [cell?, cell?, get?_setCell]
  by_cases hh : h' = h
  · subst hh
    rw [length] at hi
    cases hcells : heap.get? h' with
    | none => simp [hcells] at hi
    | some cells =>
      have hsize : i < cells.size := by simpa [hcells] using hi
      by_cases hj : j = i
      · simp [hj, hsize]
      · simp [hj, Ne.symm hj]
  · simp [hh]

end Heap

end ParLang
