import Mathlib.Data.List.Perm.Subperm
import Mathlib.Data.List.ProdSigma
import ParLang.Proofs.Execution.Conclusion
import ParLang.Proofs.Execution.Protocol
import ParLang.Proofs.Value.Heap

/-!
# Comparisons on a heap that stays as it is

While a comparison looks at one array after another, other units may store in them. `Heap.equalTo?` is what
it comes to if none does (`Exec.conclude_equalValues`): an answer, or none for want of depth.

A deeper look never tells more than one that is as deep as there are pairs of arrays
(`Heap.equalTo?_eq_equal?`): what is told first at some depth leads to something that is told first one step
less deep, and all of these differ, so there are no more of them than pairs. So `Heap.equal?` is what a
comparison comes to if it comes to an end at all.
-/

namespace ParLang

/-! ## What is told first at a depth -/

section Turning

variable {X β : Type} {f : Nat → X → Option β}

/-- The answer is told at the depth `d + 1`, and not before. -/
def TurnsAt (f : Nat → X → Option β) (d : Nat) (x : X) : Prop :=
  f d x = none ∧ f (d + 1) x ≠ none

/-- What is told is told at every greater depth. -/
theorem told_mono (hmono : ∀ d x b, f d x = some b → f (d + 1) x = some b) {d d' : Nat} {x : X}
    {b : β} (hd : d ≤ d') (h : f d x = some b) : f d' x = some b := by
  induction hd with
  | refl => exact h
  | step _ ih => exact hmono _ _ _ ih

/-- There is one depth at which a thing is told first. -/
theorem TurnsAt.unique (hmono : ∀ d x b, f d x = some b → f (d + 1) x = some b) {d d' : Nat} {x : X}
    (h : TurnsAt f d x) (h' : TurnsAt f d' x) : d = d' := by
  have hle : ∀ {i j}, TurnsAt f i x → TurnsAt f j x → i ≤ j := by
    intro i j hi hj
    by_contra hlt
    obtain ⟨b, hb⟩ := Option.ne_none_iff_exists'.mp hj.2
    have htold := told_mono hmono (Nat.lt_of_not_le hlt) hb
    rw [hi.1] at htold
    cases htold
  exact Nat.le_antisymm (hle h h') (hle h' h)

/-- If what is told first leads to something told first one step less deep, then there are at least as
many things as the depth. -/
theorem TurnsAt.le_length (hmono : ∀ d x b, f d x = some b → f (d + 1) x = some b)
    (hdown : ∀ d x, TurnsAt f (d + 1) x → ∃ y, TurnsAt f d y) {l : List X}
    (hl : ∀ d x, TurnsAt f (d + 1) x → x ∈ l) {d : Nat} {x : X} (h : TurnsAt f d x) :
    d ≤ l.length := by
  -- One thing for each depth above zero, all of them different.
  have hchain : ∀ d x, TurnsAt f d x →
      ∃ ys : List X, ys.length = d ∧ ys.Nodup ∧ ys ⊆ l ∧ ∀ y ∈ ys, ∃ i ≤ d, TurnsAt f i y := by
    intro d
    induction d with
    | zero => exact fun x _ => ⟨[], rfl, List.nodup_nil, List.nil_subset l, by simp⟩
    | succ d ih =>
      intro x hx
      obtain ⟨y, hy⟩ := hdown d x hx
      obtain ⟨ys, hlength, hnodup, hsub, hturn⟩ := ih y hy
      have hfresh : x ∉ ys := fun hmem => by
        obtain ⟨i, hi, hxi⟩ := hturn x hmem
        have := hx.unique hmono hxi
        omega
      refine ⟨x :: ys, by rw [List.length_cons, hlength], List.nodup_cons.mpr ⟨hfresh, hnodup⟩,
        List.cons_subset.mpr ⟨hl d x hx, hsub⟩, ?_⟩
      intro z hz
      rcases List.mem_cons.mp hz with rfl | hz
      · exact ⟨d + 1, Nat.le_refl _, hx⟩
      · obtain ⟨i, hi, hzi⟩ := hturn z hz
        exact ⟨i, by omega, hzi⟩
  obtain ⟨ys, rfl, hnodup, hsub, -⟩ := hchain d x h
  exact (hnodup.subperm hsub).length_le

/-- Then no look tells more than one that is deeper than there are things. -/
theorem told_eq (hmono : ∀ d x b, f d x = some b → f (d + 1) x = some b)
    (hdown : ∀ d x, TurnsAt f (d + 1) x → ∃ y, TurnsAt f d y) {l : List X}
    (hl : ∀ d x, TurnsAt f (d + 1) x → x ∈ l) {d : Nat} (x : X) (hd : l.length < d) :
    f d x = f (l.length + 1) x := by
  induction hd with
  | refl => rfl
  | @step d hd ih =>
    rw [← ih]
    cases hx : f d x with
    | some b => exact hmono d x b hx
    | none =>
      by_contra hne
      have hturn : TurnsAt f d x := ⟨hx, hne⟩
      exact absurd (hturn.le_length hmono hdown hl) (Nat.not_le_of_lt hd)

end Turning

namespace Heap

variable {heap : Heap}

/-! ## The arrays of a heap -/

/-- The number of arrays. -/
def size (heap : Heap) : Nat :=
  heap.regions.foldl (fun n region => n + region.2.size) 0

/-- The handles of all arrays. -/
def handles (heap : Heap) : List Handle :=
  heap.regions.flatMap fun region => (List.range region.2.size).map (⟨region.1, ·⟩)

/-- There are as many handles as arrays. -/
theorem length_handles (heap : Heap) : heap.handles.length = heap.size := by
  have hfold : ∀ (regions : List (UnitId × Array (Array Value))) (n : Nat),
      regions.foldl (fun n region => n + region.2.size) n =
        n + (regions.map fun region => region.2.size).sum := by
    intro regions
    induction regions with
    | nil => simp
    | cons region rest ih => intro n; simp [ih, Nat.add_assoc]
  rw [size, hfold, handles, List.length_flatMap]
  simp

/-- A region that is found is one of the list. -/
theorem mem_of_regionIn {unit : UnitId} {regions : List (UnitId × Array (Array Value))}
    {arrays : Array (Array Value)} (h : regionIn unit regions = some arrays) :
    (unit, arrays) ∈ regions := by
  induction regions with
  | nil => cases h
  | cons region rest ih =>
    obtain ⟨u, as⟩ := region
    rw [regionIn] at h
    split at h
    · next heq =>
      obtain rfl := Option.some.inj h
      exact heq ▸ List.mem_cons_self
    · exact List.mem_cons_of_mem _ (ih h)

/-- An array that is found has its handle among those of the heap. -/
theorem mem_handles {h : Handle} {cells : Array Value} (hh : heap.get? h = some cells) :
    h ∈ heap.handles := by
  obtain ⟨arrays, hregion, hcells⟩ := Option.bind_eq_some_iff.mp hh
  refine List.mem_flatMap.mpr ⟨_, mem_of_regionIn hregion, List.mem_map.mpr ⟨h.serial, ?_, rfl⟩⟩
  exact List.mem_range.mpr (Array.getElem?_eq_some_iff.mp hcells).1

/-- An array with a cell is one of the heap. -/
theorem mem_handles_of_items {h : Handle} (hne : heap.items h ≠ []) : h ∈ heap.handles := by
  cases hh : heap.get? h with
  | none => simp [items, hh] at hne
  | some cells => exact mem_handles hh

/-! ## Comparisons -/

/-- Asks about pairs in turn, up to the first one that is not equal or has no answer. -/
def allEqual? (equal? : Value → Value → Option Bool) : List (Value × Value) → Option Bool
  | [] => some true
  | (x, y) :: rest =>
    match equal? x y with
    | some true => allEqual? equal? rest
    | other => other

/-- Whether two values are equal, looking at arrays up to a depth; `none` if that is not deep enough.
Arrays are equal if they are the same or have equal cells. -/
def equalTo? (heap : Heap) : Nat → Value → Value → Option Bool
  | _, .number x, .number y => some (x == y)
  | _, .bool a, .bool b => some (a == b)
  | _, .text s, .text t => some (s == t)
  | _, .void, .void => some true
  | depth, .array g, .array h =>
    if g = h then some true
    else
      match depth with
      | 0 => none
      | d + 1 =>
        let xs := heap.items g
        let ys := heap.items h
        if xs.length = ys.length then allEqual? (equalTo? heap d) (xs.zip ys) else some false
  | _, _, _ => some false

/-- Whether two values are equal, if that can be told. A comparison that comes to more pairs of arrays
inside each other than there are comes to one again, and never to an end. -/
def equal? (heap : Heap) (a b : Value) : Option Bool :=
  heap.equalTo? (heap.size * heap.size + 1) a b

/-- Two values are equal. -/
def equal (heap : Heap) (a b : Value) : Bool :=
  (heap.equal? a b).getD false

attribute [local simp] equalTo?

/-- More depth does not change what is told of pairs. -/
theorem allEqual?_mono {f g : Value → Value → Option Bool} {l : List (Value × Value)} {b : Bool}
    (hfg : ∀ p ∈ l, ∀ b, f p.1 p.2 = some b → g p.1 p.2 = some b) (h : allEqual? f l = some b) :
    allEqual? g l = some b := by
  induction l with
  | nil => exact h
  | cons p l ih =>
    obtain ⟨x, y⟩ := p
    rw [allEqual?] at h ⊢
    cases hf : f x y with
    | none => simp [hf] at h
    | some c =>
      rw [hf] at h
      rw [hfg (x, y) (by simp) c hf]
      cases c with
      | true => exact ih (fun p hp => hfg p (by simp [hp])) h
      | false => exact h

/-- Pairs are told if each of them is. -/
theorem isSome_allEqual? {equal? : Value → Value → Option Bool} {pairs : List (Value × Value)}
    (h : ∀ pair ∈ pairs, (equal? pair.1 pair.2).isSome) : (allEqual? equal? pairs).isSome := by
  induction pairs with
  | nil => rfl
  | cons pair rest ih =>
    obtain ⟨hpair, hrest⟩ := List.forall_mem_cons.mp h
    obtain ⟨b, hb⟩ := Option.isSome_iff_exists.mp hpair
    rw [allEqual?, hb]
    cases b with
    | true => exact ih hrest
    | false => rfl

/-- What keeps a comparison of pairs open is one of them. -/
theorem exists_of_allEqual?_eq_none {f g : Value → Value → Option Bool} {l : List (Value × Value)}
    (hfg : ∀ p ∈ l, ∀ b, f p.1 p.2 = some b → g p.1 p.2 = some b) (hf : allEqual? f l = none)
    (hg : allEqual? g l ≠ none) : ∃ p ∈ l, f p.1 p.2 = none ∧ g p.1 p.2 ≠ none := by
  induction l with
  | nil => cases hf
  | cons p l ih =>
    obtain ⟨x, y⟩ := p
    rw [allEqual?] at hf hg
    cases hx : f x y with
    | none =>
      refine ⟨(x, y), by simp, hx, fun hnone => ?_⟩
      simp [hnone] at hg
    | some c =>
      rw [hx] at hf
      rw [hfg (x, y) (by simp) c hx] at hg
      cases c with
      | true =>
        obtain ⟨p, hp, hturn⟩ := ih (fun p hp => hfg p (by simp [hp])) hf hg
        exact ⟨p, by simp [hp], hturn⟩
      | false => cases hf

/-- Two different arrays are compared by their lengths and then by their cells. -/
theorem equalTo?_array {d : Nat} {g h : Handle} (hne : g ≠ h) :
    heap.equalTo? (d + 1) (.array g) (.array h) =
      if (heap.items g).length = (heap.items h).length then
        allEqual? (heap.equalTo? d) ((heap.items g).zip (heap.items h))
      else some false := by
  simp [hne]

/-- More depth does not change what is told of two values. -/
theorem equalTo?_mono (d : Nat) (a b : Value) (r : Bool) (h : heap.equalTo? d a b = some r) :
    heap.equalTo? (d + 1) a b = some r := by
  induction d generalizing a b r with
  | zero => cases a <;> cases b <;> simp_all
  | succ d ih =>
    cases a with
    | array g =>
      cases b with
      | array g' =>
        by_cases heq : g = g'
        · simpa [heq] using h
        · rw [equalTo?_array heq] at h ⊢
          split at h
          · next hlength =>
            rw [if_pos hlength]
            exact allEqual?_mono (fun p _ r => ih p.1 p.2 r) h
          · next hlength =>
            rw [if_neg hlength]
            exact h
      | _ => simpa using h
    | _ => cases b <;> simpa using h

/-- Only two different arrays with cells are told later than at once. -/
theorem turnsAt_equalTo? {d : Nat} {a b : Value}
    (h : TurnsAt (fun d p => heap.equalTo? d p.1 p.2) (d + 1) (a, b)) :
    ∃ g ∈ heap.handles, ∃ g' ∈ heap.handles, a = .array g ∧ b = .array g' ∧
      ∃ p : Value × Value, TurnsAt (fun d p => heap.equalTo? d p.1 p.2) d p := by
  obtain ⟨hnone, hsome⟩ := h
  dsimp only at hnone hsome
  cases a with
  | array g =>
    cases b with
    | array g' =>
      by_cases heq : g = g'
      · simp [heq] at hnone
      · rw [equalTo?_array heq] at hnone hsome
        split at hnone
        · next hlength =>
          rw [if_pos hlength] at hsome
          obtain ⟨p, hp, hturn⟩ :=
            exists_of_allEqual?_eq_none (fun p _ r => equalTo?_mono d p.1 p.2 r) hnone hsome
          have hleft := List.ne_nil_of_mem (List.of_mem_zip hp).1
          have hright := List.ne_nil_of_mem (List.of_mem_zip hp).2
          exact ⟨g, mem_handles_of_items hleft, g', mem_handles_of_items hright, rfl, rfl, p, hturn⟩
        · cases hnone
    | _ => simp at hnone
  | _ => cases b <;> simp at hnone

/-- **A deeper look does not tell more of a comparison.** -/
theorem equalTo?_eq_equal? {d : Nat} (a b : Value) (hd : heap.size * heap.size < d) :
    heap.equalTo? d a b = heap.equal? a b := by
  have hlength : (heap.handles.map Value.array ×ˢ heap.handles.map Value.array).length =
      heap.size * heap.size := by
    simp [List.length_product, length_handles]
  rw [equal?, ← hlength]
  refine told_eq (f := fun d p => heap.equalTo? d p.1 p.2) (fun d p r => equalTo?_mono d p.1 p.2 r)
    (fun d p h => ?_) (fun d p h => ?_) (a, b) (hlength ▸ hd)
  · obtain ⟨_, -, _, -, -, -, p', hp'⟩ := turnsAt_equalTo? h
    exact ⟨p', hp'⟩
  · obtain ⟨a, b⟩ := p
    obtain ⟨g, hg, g', hg', rfl, rfl, -⟩ := turnsAt_equalTo? h
    exact List.mem_product.mpr ⟨List.mem_map_of_mem hg, List.mem_map_of_mem hg'⟩

end Heap

/-! ## What a comparison comes to -/

namespace Exec

variable {m : Machine} {w : World}

/-- A comparison of pairs comes to what is told of them, if that of one pair does. -/
theorem conclude_allEqual {equal : Value → Value → Exec Bool} {equal? : Value → Value → Option Bool}
    (h : ∀ a b, (equal a b m).conclude w =
      match equal? a b with
      | some r => .ended (.ok r, m) w
      | none => .exhausted) (pairs : List (Value × Value)) :
    (allEqual equal pairs m).conclude w =
      match Heap.allEqual? equal? pairs with
      | some r => .ended (.ok r, m) w
      | none => .exhausted := by
  induction pairs with
  | nil => rfl
  | cons pair rest ih =>
    obtain ⟨x, y⟩ := pair
    rw [allEqual, bind_apply, Process.conclude_bind, h, Heap.allEqual?]
    cases equal? x y with
    | none => rfl
    | some r =>
      cases r with
      | true => exact ih
      | false => rfl

/-- **A comparison by itself** comes to what it tells on the heap as it is, and changes nothing. -/
theorem conclude_equalValues (depth : Nat) (a b : Value) :
    (equalValues depth a b m).conclude w =
      match w.heap.equalTo? depth a b with
      | some r => .ended (.ok r, m) w
      | none => .exhausted := by
  induction depth generalizing a b with
  | zero =>
    cases a with
    | array g =>
      cases b with
      | array h => by_cases heq : g = h <;> simp [equalValues, Heap.equalTo?, heq] <;> rfl
      | _ => rfl
    | _ => cases b <;> rfl
  | succ d ih =>
    cases a with
    | array g =>
      cases b with
      | array h =>
        by_cases heq : g = h
        · simp only [equalValues, Heap.equalTo?, heq, if_true]
          rfl
        · rw [Heap.equalTo?_array heq]
          simp only [equalValues, heq, if_false]
          show Process.conclude w ((if (w.heap.items g).length = (w.heap.items h).length then
            allEqual (equalValues d) ((w.heap.items g).zip (w.heap.items h))
            else pure false : Exec Bool) m) = _
          split
          · exact conclude_allEqual ih _
          · rfl
      | _ => rfl
    | _ => cases b <;> rfl

end Exec

end ParLang
