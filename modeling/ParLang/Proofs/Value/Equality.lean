import ParLang.Proofs.Number.Bits
import ParLang.Proofs.Value.Comparison

/-!
# Equality of values

Two arrays are equal if they are the same array or have equal cells. The first of the two is a shortcut
that asks for the handle alone, and within one comparison some pairs of arrays are decided by it and
others by their cells. Between values without cycles every comparison comes to an end, and equality is
symmetric and transitive nevertheless (`Heap.equality_laws`).

What the shortcut could change is a comparison with a non-number, which is not equal to itself: an array
that holds one is equal to itself and to no copy of its cells. Between values that hold none, equality is
`Heap.SameStructure`, which never looks at a handle.
-/

namespace ParLang

namespace Heap

variable {heap : Heap} {a b c u v : Value} {g h : Handle}

/-! ## What lies in a value -/

/-- `u` is the value itself or lies in an array in it, however deep. -/
inductive Within (heap : Heap) (u : Value) : Value → Prop where
  | self : Within heap u u
  | cell {h : Handle} {v : Value} (hv : v ∈ heap.items h) (hu : Within heap u v) :
      Within heap u (.array h)

/-- What lies in a value, and is not the value, is in a cell. -/
theorem Within.eq_or_mem (huv : heap.Within u v) :
    u = v ∨ ∃ h ∈ heap.handles, u ∈ heap.items h := by
  induction huv with
  | self => exact .inl rfl
  | cell hv _ ih =>
    rcases ih with rfl | hcell
    · exact .inr ⟨_, mem_handles_of_items (List.ne_nil_of_mem hv), hv⟩
    · exact .inr hcell

/-- No array in the value lies in a cell of its own. -/
def Acyclic (heap : Heap) (v : Value) : Prop :=
  ∀ h, heap.Within (.array h) v → ∀ u ∈ heap.items h, ¬ heap.Within (.array h) u

/-- The value holds no non-number, however deep. -/
def NaNFree (heap : Heap) (v : Value) : Prop :=
  ∀ x, heap.Within (.number x) v → x.isNaN = false

/-- What lies in an array without cycles has none. -/
theorem Acyclic.of_cell (h' : heap.Acyclic (.array h)) (hu : u ∈ heap.items h) : heap.Acyclic u :=
  fun g hg => h' g (.cell hu hg)

/-- What lies in an array without non-numbers holds none. -/
theorem NaNFree.of_cell (h' : heap.NaNFree (.array h)) (hu : u ∈ heap.items h) : heap.NaNFree u :=
  fun x hx => h' x (.cell hu hx)

/-- A heap in which every array holds only arrays with smaller numbers has no cycles. -/
theorem acyclic_of_serial (hserial : ∀ h ∈ heap.handles, ∀ u ∈ heap.items h, ∀ g, u = .array g →
    g.serial < h.serial) (v : Value) : heap.Acyclic v := by
  have hlt : ∀ {h : Handle} {u g}, u ∈ heap.items h → u = .array g → g.serial < h.serial :=
    fun hu => hserial _ (mem_handles_of_items (List.ne_nil_of_mem hu)) _ hu _
  have hle : ∀ {g : Handle} {v}, heap.Within (.array g) v → ∀ h, v = .array h →
      g.serial ≤ h.serial := by
    intro g v hwithin
    induction hwithin with
    | self => rintro h ⟨⟩; exact le_rfl
    | @cell h' u hu hwithin ih =>
      rintro h ⟨⟩
      cases u with
      | array k => exact (ih k rfl).trans (hlt hu rfl).le
      | _ => cases hwithin
  intro h _ u hu hwithin
  cases u with
  | array k => exact absurd (hle hwithin k rfl) (Nat.not_le_of_lt (hlt hu rfl))
  | _ => cases hwithin

/-- Taking the value apart comes to an end. -/
inductive Grounded (heap : Heap) : Value → Prop where
  | scalar {v : Value} (hv : v.kind ≠ .array) : Grounded heap v
  | array {h : Handle} (hcells : ∀ u ∈ heap.items h, Grounded heap u) : Grounded heap (.array h)

/-- An array lies in none of its own cells, so there are fewer arrays in each of them. -/
theorem Acyclic.grounded_of_mem (l : List Handle) {v : Value} (hv : heap.Acyclic v)
    (hl : ∀ h, heap.Within (.array h) v → heap.items h ≠ [] → h ∈ l) : heap.Grounded v := by
  cases v with
  | array h =>
    refine .array fun u hu => ?_
    have hmem : h ∈ l := hl h .self (List.ne_nil_of_mem hu)
    have hfewer : (l.erase h).length < l.length := by
      rw [List.length_erase_of_mem hmem]
      exact Nat.sub_one_lt_of_lt (List.length_pos_of_mem hmem)
    refine Acyclic.grounded_of_mem (l.erase h) (hv.of_cell hu) fun g hg hne => ?_
    have hother : g ≠ h := by
      rintro rfl
      exact hv g .self u hu hg
    exact (List.mem_erase_of_ne hother).mpr (hl g (.cell hu hg) hne)
  | _ => exact .scalar nofun
termination_by l.length

/-- An array with cells is one of the heap, and these are finitely many. -/
theorem Acyclic.grounded (hv : heap.Acyclic v) : heap.Grounded v :=
  hv.grounded_of_mem heap.handles fun _ _ hne => mem_handles_of_items hne

/-! ## Equality without handles -/

/-- The values have the same structure: equal scalars, and arrays of one length whose cells have the same
structure one by one. -/
inductive SameStructure (heap : Heap) : Value → Value → Prop where
  | number {x y : Float} (h : x == y) : SameStructure heap (.number x) (.number y)
  | bool (b : Bool) : SameStructure heap (.bool b) (.bool b)
  | text (s : String) : SameStructure heap (.text s) (.text s)
  | void : SameStructure heap .void .void
  | array {g h : Handle} (hcells : List.Forall₂ (SameStructure heap) (heap.items g) (heap.items h)) :
      SameStructure heap (.array g) (.array h)

/-- Arrays have the same structure if their cells have. -/
theorem sameStructure_array_iff : heap.SameStructure (.array g) (.array h) ↔
    List.Forall₂ heap.SameStructure (heap.items g) (heap.items h) :=
  ⟨fun | .array hcells => hcells, .array⟩

/-- A scalar has the structure of scalars of its own kind only. -/
theorem SameStructure.kind_eq (h : heap.SameStructure a b) : a.kind = b.kind := by
  cases h <;> rfl

/-- Values that are no arrays: their structure is the value itself, and the comparison is symmetric. -/
theorem SameStructure.symm_of_scalar (ha : a.kind ≠ .array) (h : heap.SameStructure a b) :
    heap.SameStructure b a := by
  cases h with
  | number h => exact .number (BEq.symm h)
  | array => exact absurd rfl ha
  | bool | text | void => constructor

/-- It is transitive too. -/
theorem SameStructure.trans_of_scalar (ha : a.kind ≠ .array) (h : heap.SameStructure a b)
    (h' : heap.SameStructure b c) : heap.SameStructure a c := by
  cases h with
  | number h =>
    cases h' with
    | number h' => exact .number (BEq.trans h h')
  | array => exact absurd rfl ha
  | bool | text | void => exact h'

/-! ## Equality by cells and by handle -/

/-- Two values are equal if a comparison says so. -/
theorem equal_eq_true_iff : heap.equal a b = true ↔ heap.equal? a b = some true := by
  rw [equal]
  cases heap.equal? a b <;> simp

/-- Pairs are all equal if the lists agree item by item. -/
theorem allEqual?_eq_some_true_iff {equal? : Value → Value → Option Bool} {us vs : List Value} :
    us.length = vs.length ∧ allEqual? equal? (us.zip vs) = some true ↔
      List.Forall₂ (fun u v => equal? u v = some true) us vs := by
  induction us generalizing vs with
  | nil => cases vs <;> simp [allEqual?]
  | cons u us ih =>
    cases vs with
    | nil => simp
    | cons v vs =>
      rw [List.zip_cons_cons, allEqual?, List.forall₂_cons, ← ih]
      cases equal? u v with
      | none => simp
      | some r => cases r <;> simp

/-- Transitivity passes from the items of lists to the lists. -/
theorem forall₂_trans {R : Value → Value → Prop} {us vs ws : List Value}
    (htrans : ∀ u ∈ us, ∀ {v w}, R u v → R v w → R u w) (h : List.Forall₂ R us vs)
    (h' : List.Forall₂ R vs ws) : List.Forall₂ R us ws := by
  induction h generalizing ws with
  | nil => exact h'
  | cons huv _ ih =>
    obtain ⟨w, ws, hvw, hrest, rfl⟩ := List.forall₂_cons_left_iff.mp h'
    exact .cons (htrans _ List.mem_cons_self huv hvw)
      (ih (fun u hu => htrans u (List.mem_cons_of_mem _ hu)) hrest)

/-- So does an equivalence of two relations. -/
theorem forall₂_congr_of_mem {R S : Value → Value → Prop} {us vs : List Value}
    (h : ∀ u ∈ us, ∀ v, R u v ↔ S u v) : List.Forall₂ R us vs ↔ List.Forall₂ S us vs := by
  constructor
  · intro hR
    exact ((List.forall₂_and_left _ _).mpr ⟨h, hR⟩).imp fun u v huv => (huv.1 v).mp huv.2
  · intro hS
    exact ((List.forall₂_and_left _ _).mpr ⟨h, hS⟩).imp fun u v huv => (huv.1 v).mpr huv.2

/-- Different arrays are compared by their cells, with no loss of depth. -/
theorem equal?_array (hne : g ≠ h) : heap.equal? (.array g) (.array h) =
    if (heap.items g).length = (heap.items h).length then
      allEqual? heap.equal? ((heap.items g).zip (heap.items h))
    else some false := by
  rw [← equalTo?_eq_equal? (d := heap.size * heap.size + 2) _ _ (by omega), equalTo?_array hne]
  rfl

/-- An array is equal to itself. -/
@[simp] theorem equal_self_array (heap : Heap) (h : Handle) : heap.equal (.array h) (.array h) = true := by
  simp [equal, equal?, equalTo?]

/-- Arrays are equal if they are the same or have equal cells. -/
theorem equal_array_iff : heap.equal (.array g) (.array h) = true ↔
    g = h ∨ List.Forall₂ (fun u v => heap.equal u v = true) (heap.items g) (heap.items h) := by
  by_cases heq : g = h
  · simp [heq]
  · simp only [equal_eq_true_iff, heq, false_or, equal?_array heq, ← allEqual?_eq_some_true_iff]
    split <;> simp_all

/-- Values of different kinds are not equal. -/
theorem equal_eq_false_of_kind_ne (hkind : a.kind ≠ b.kind) : heap.equal a b = false := by
  cases a <;> cases b <;> simp_all [equal, equal?, equalTo?, Value.kind]

/-- Only an array is equal to an array. -/
theorem exists_array_of_equal (hab : heap.equal (.array g) b = true) : ∃ h, b = .array h := by
  cases b with
  | array h => exact ⟨h, rfl⟩
  | _ => simp [equal, equal?, equalTo?] at hab

/-- What is no array has no handle. -/
theorem equal_iff_sameStructure_of_scalar (ha : a.kind ≠ .array) :
    heap.equal a b = true ↔ heap.SameStructure a b := by
  by_cases hkind : a.kind = b.kind
  swap
  · rw [equal_eq_false_of_kind_ne hkind]
    exact ⟨nofun, fun h => absurd h.kind_eq hkind⟩
  cases a with
  | array g => exact absurd rfl ha
  | number x =>
    cases b with
    | number y =>
      refine ⟨.number, fun h => ?_⟩
      cases h with
      | number hxy => exact hxy
    | _ => cases hkind
  | bool b₁ =>
    cases b with
    | bool b₂ =>
      have heq : heap.equal (.bool b₁) (.bool b₂) = true ↔ b₁ = b₂ := by simp [equal, equal?, equalTo?]
      refine heq.trans ⟨fun h => h ▸ .bool b₁, fun h => ?_⟩
      cases h with
      | bool => rfl
    | _ => cases hkind
  | text s =>
    cases b with
    | text t =>
      have heq : heap.equal (.text s) (.text t) = true ↔ s = t := by simp [equal, equal?, equalTo?]
      refine heq.trans ⟨fun h => h ▸ .text s, fun h => ?_⟩
      cases h with
      | text => rfl
    | _ => cases hkind
  | void =>
    cases b with
    | void => exact ⟨fun _ => .void, fun _ => rfl⟩
    | _ => cases hkind

/-! ## The laws -/

/-- Only a non-number makes a value differ from itself, and not if it lies in an array. -/
theorem equal_self (hnan : heap.NaNFree a) : heap.equal a a = true := by
  cases a with
  | number x =>
    have hx : x == x := by simpa using hnan x .self
    exact hx
  | array g => exact heap.equal_self_array g
  | _ => simp [equal, equal?, equalTo?]

namespace Grounded

/-- A comparison comes to an end. -/
theorem isSome_equal? (ha : heap.Grounded a) (b : Value) : (heap.equal? a b).isSome := by
  induction ha generalizing b with
  | @scalar a ha => cases a <;> cases b <;> simp_all [equal?, equalTo?, Value.kind]
  | @array g _ ih =>
    cases b with
    | array h =>
      by_cases heq : g = h
      · simp [equal?, equalTo?, heq]
      · rw [equal?_array heq]
        split
        · exact isSome_allEqual? fun pair hpair => ih pair.1 (List.of_mem_zip hpair).1 pair.2
        · rfl
    | _ => simp [equal?, equalTo?]

/-- Equality is symmetric, by induction along the cells of the first value. -/
theorem equal_symm (ha : heap.Grounded a) (hab : heap.equal a b = true) : heap.equal b a = true := by
  induction ha generalizing b with
  | scalar ha =>
    have hsame := (equal_iff_sameStructure_of_scalar ha).mp hab
    exact (equal_iff_sameStructure_of_scalar (hsame.kind_eq ▸ ha)).mpr (hsame.symm_of_scalar ha)
  | @array g _ ih =>
    obtain ⟨h, rfl⟩ := exists_array_of_equal hab
    rw [equal_array_iff] at hab ⊢
    refine hab.imp Eq.symm fun hcells => .flip ?_
    exact ((List.forall₂_and_left _ _).mpr ⟨ih, hcells⟩).imp fun u v huv => huv.1 huv.2

/-- The two comparisons may be decided at different levels, one by a handle and the other by cells: then
the two arrays of the first are one, and the second is the whole comparison. -/
theorem equal_trans (ha : heap.Grounded a) (hab : heap.equal a b = true)
    (hbc : heap.equal b c = true) : heap.equal a c = true := by
  induction ha generalizing b c with
  | scalar ha =>
    have hsame := (equal_iff_sameStructure_of_scalar ha).mp hab
    have hsame' := (equal_iff_sameStructure_of_scalar (hsame.kind_eq ▸ ha)).mp hbc
    exact (equal_iff_sameStructure_of_scalar ha).mpr (hsame.trans_of_scalar ha hsame')
  | @array g _ ih =>
    obtain ⟨h, rfl⟩ := exists_array_of_equal hab
    obtain ⟨k, rfl⟩ := exists_array_of_equal hbc
    rcases equal_array_iff.mp hab with rfl | hcells
    · exact hbc
    rcases equal_array_iff.mp hbc with rfl | hcells'
    · exact hab
    exact equal_array_iff.mpr (.inr (forall₂_trans ih hcells hcells'))

/-- Without non-numbers equality is that of structures: where the shortcut says yes, so do the cells. -/
theorem equal_iff_sameStructure (ha : heap.Grounded a) (hnan : heap.NaNFree a) :
    heap.equal a b = true ↔ heap.SameStructure a b := by
  induction ha generalizing b with
  | scalar ha => exact equal_iff_sameStructure_of_scalar ha
  | @array g _ ih =>
    by_cases hkind : (Value.array g).kind = b.kind
    swap
    · rw [equal_eq_false_of_kind_ne hkind]
      exact ⟨nofun, fun h => absurd h.kind_eq hkind⟩
    obtain ⟨h, rfl⟩ : ∃ h, b = .array h := by
      cases b with
      | array h => exact ⟨h, rfl⟩
      | _ => cases hkind
    have hcells : ∀ vs, List.Forall₂ (fun u v => heap.equal u v = true) (heap.items g) vs ↔
        List.Forall₂ heap.SameStructure (heap.items g) vs := fun vs =>
      forall₂_congr_of_mem fun u hu v => ih u hu (hnan.of_cell hu)
    rw [equal_array_iff, sameStructure_array_iff, hcells]
    refine or_iff_right_of_imp ?_
    rintro rfl
    exact (hcells _).mp (List.forall₂_same.mpr fun u hu => equal_self (hnan.of_cell hu))

end Grounded

/-- A comparison that is let go deep enough comes to its end, in whichever world has the heap. -/
theorem conclude_equalValues_of_grounded (ha : heap.Grounded a) (b : Value) {depth : Nat}
    (hdepth : heap.size * heap.size < depth) {w : World} (hw : w.heap = heap) (m : Machine) :
    (Exec.equalValues depth a b m).conclude w = .ended (.ok (heap.equal a b), m) w := by
  obtain ⟨r, hr⟩ := Option.isSome_iff_exists.mp (ha.isSome_equal? b)
  rw [Exec.conclude_equalValues, hw, equalTo?_eq_equal? a b hdepth, equal, hr, Option.getD_some]

/-- **The laws of equality** between values without cycles. Comparing them comes to an end, at every depth
from some one on; equality is symmetric and transitive, and an array is equal to itself. If one of them
holds no non-number, it is equal to itself, and equality is that of structures. -/
theorem equality_laws (ha : heap.Acyclic a) (hb : heap.Acyclic b) :
    (∃ least, ∀ depth, least ≤ depth → ∀ (w : World) m, w.heap = heap →
        (Exec.equalValues depth a b m).conclude w = .ended (.ok (heap.equal a b), m) w) ∧
      heap.equal a b = heap.equal b a ∧
      (heap.equal a b → heap.equal b c → heap.equal a c) ∧
      (∀ h, heap.equal (.array h) (.array h)) ∧
      (heap.NaNFree a → heap.equal a a ∧ (heap.equal a b ↔ heap.SameStructure a b)) := by
  have hsymm : heap.equal a b = heap.equal b a := by
    rw [Bool.eq_iff_iff]
    exact ⟨ha.grounded.equal_symm, hb.grounded.equal_symm⟩
  refine ⟨⟨heap.size * heap.size + 1, fun depth hdepth w m hw => ?_⟩, hsymm, ha.grounded.equal_trans,
    heap.equal_self_array, fun hnan => ⟨equal_self hnan, ha.grounded.equal_iff_sameStructure hnan⟩⟩
  exact conclude_equalValues_of_grounded ha.grounded b hdepth hw m

end Heap

/-- The shortcut is seen where an array holds a non-number: it is equal to itself, and to no copy of its
cells. -/
example :
    let nan : Value := .number (0 / 0)
    let heap : Heap := ⟨[([], #[#[nan], #[nan]])]⟩
    heap.equal (.array ⟨[], 0⟩) (.array ⟨[], 0⟩) = true ∧
      heap.equal (.array ⟨[], 0⟩) (.array ⟨[], 1⟩) = false :=
  ⟨rfl, rfl⟩

/-- Two arrays of one cell, and three of two cells that are made of them: `[0, 1]`, `[1, 1]` and `[0, 0]`
by the numbers of the arrays in their cells. -/
def sharedCells : Heap where
  regions := [([], #[#[.number 1], #[.number 1],
    #[.array ⟨[], 0⟩, .array ⟨[], 1⟩], #[.array ⟨[], 1⟩, .array ⟨[], 1⟩],
    #[.array ⟨[], 0⟩, .array ⟨[], 0⟩]])]

/-- The heap has five arrays. -/
theorem handles_sharedCells : sharedCells.handles = (List.range 5).map (⟨[], ·⟩) := by decide

/-- An array holds only arrays that were made before it. -/
theorem acyclic_sharedCells (v : Value) : sharedCells.Acyclic v := by
  refine Heap.acyclic_of_serial ?_ v
  rw [handles_sharedCells]
  simp [sharedCells, Heap.items, Heap.get?, Heap.regionIn, List.range_succ]

/-- There are only numbers in it. -/
theorem nanFree_sharedCells (h : Handle) : sharedCells.NaNFree (.array h) := by
  have hone : ∀ g ∈ sharedCells.handles, ∀ x, .number x ∈ sharedCells.items g → x = 1 := by
    rw [handles_sharedCells]
    simp [sharedCells, Heap.items, Heap.get?, Heap.regionIn, List.range_succ]
  intro x hx
  rcases hx.eq_or_mem with heq | ⟨g, hg, hcell⟩
  · cases heq
  · rw [hone g hg x hcell]
    decide

/-- The one with the given number. -/
def sharedCellsArray (i : Nat) : Value :=
  .array ⟨[], i⟩

/-- The first two are compared by cells in front and by handle behind, the last two the other way round. -/
theorem equality_laws_sharedCells :
    (∀ v, sharedCells.Acyclic v) ∧ sharedCells.NaNFree (sharedCellsArray 3) ∧
      sharedCells.equal (sharedCellsArray 3) (sharedCellsArray 2) ∧
      sharedCells.equal (sharedCellsArray 2) (sharedCellsArray 4) ∧
      sharedCells.equal (sharedCellsArray 3) (sharedCellsArray 4) ∧
      sharedCells.SameStructure (sharedCellsArray 3) (sharedCellsArray 2) := by
  have h32 : sharedCells.equal (sharedCellsArray 3) (sharedCellsArray 2) := rfl
  have h24 : sharedCells.equal (sharedCellsArray 2) (sharedCellsArray 4) := rfl
  obtain ⟨-, -, htrans, -, hnan⟩ := Heap.equality_laws (c := sharedCellsArray 4)
    (acyclic_sharedCells (sharedCellsArray 3)) (acyclic_sharedCells (sharedCellsArray 2))
  exact ⟨acyclic_sharedCells, nanFree_sharedCells _, h32, h24, htrans h32 h24,
    (hnan (nanFree_sharedCells _)).2.mp h32⟩

end ParLang
