import ParLang.Proofs.Execution.Ending
import ParLang.Proofs.Execution.Lengths
import ParLang.Proofs.Soundness.Store

/-!
# Accesses through numbers

An access to an array or a text through a number asks for the length, and for nothing else if the number has
no place in it. Otherwise it uses the place of the number and no other. The length is still the same then,
whatever other units have done in between, so the place is there (`Exec.indexing`). A number between `-1` and
`0` stands for the first place, which something empty does not have (`emptyArray_refuses`).
-/

namespace ParLang

variable {α : Type} {h : Handle} {raw : Float} {line : Nat} {m m' : Machine} {es : List Event}

/-! ## What an access asks for -/

/-- The events of an access to an array through a number, with its result: a failed bounds check, or
one more event with the result that `touch` says, at the place of the number. -/
inductive Exec.Accesses (h : Handle) (raw : Float) (line : Nat)
    (touch : Nat → Event → Except RuntimeError α → Prop) : List Event → Except RuntimeError α → Prop
  | refused {n : Nat} (hnone : Number.slot? raw n = none) :
    Accesses h raw line touch [.answered (.inspect (.length h)) n] (.error ⟨.indexOutOfBounds raw n, line⟩)
  | accepted {n i : Nat} {e : Event} {r : Except RuntimeError α} (hslot : Number.slot? raw n = some i)
    (htouch : touch i e r) : Accesses h raw line touch [.answered (.inspect (.length h)) n, e] r

/-- A cell is read. -/
def Exec.reading (h : Handle) (i : Nat) (e : Event) (r : Except RuntimeError Value) : Prop :=
  ∃ v?, e = .answered (.inspect (.cell h i)) v? ∧ ∀ v, v? = some v → r = .ok v

/-- The value is stored in a cell. -/
def Exec.storing (h : Handle) (v : Value) (i : Nat) (e : Event) (r : Except RuntimeError Unit) : Prop :=
  ∃ stored, e = .answered (.setCell h i v) stored ∧ (stored = true → r = .ok ())

namespace Exec

/-- The bounds check in front of an access: it goes on with the slot, or fails and shows the number it was
given. -/
theorem slotOf_bind_apply (length : Nat) (f : Nat → Exec α) :
    (slotOf raw length line >>= f) m =
      match Number.slot? raw length with
      | some i => f i m
      | none => .done (.error ⟨.indexOutOfBounds raw length, line⟩, m) := by
  unfold slotOf
  cases Number.slot? raw length <;> rfl

/-- Every access asks for the length, settles the slot from that length and only then touches the cell. So
what holds of the events that touch it holds of the access as a whole, with the length that was seen. -/
theorem accesses_of_ends {touch : Nat → Event → Except RuntimeError α → Prop} {f : Nat → Nat → Exec α}
    {r : Except RuntimeError α}
    (hends : ((do
      let length ← inspect (.length h)
      let i ← slotOf raw length line
      f length i) m).Ends es (r, m'))
    (hf : ∀ n i es, (f n i m).Ends es (r, m') → ∃ e, es = [e] ∧ touch i e r) :
    Accesses h raw line touch es r := by
  obtain ⟨n, es, rfl, hrest⟩ : ∃ n es', es = .answered (.inspect (.length h)) n :: es' ∧
      ((slotOf raw n line >>= f n) m).Ends es' (r, m') := by
    cases hends with
    | answered hrest => exact ⟨_, _, rfl, hrest⟩
  rw [slotOf_bind_apply] at hrest
  cases hslot : Number.slot? raw n with
  | none =>
    rw [hslot] at hrest
    obtain ⟨rfl, heq⟩ := Process.ends_done_iff.mp hrest
    obtain ⟨rfl, -⟩ := Prod.mk.inj heq
    exact .refused hslot
  | some i =>
    rw [hslot] at hrest
    obtain ⟨e, rfl, htouch⟩ := hf n i es hrest
    exact .accepted hslot htouch

/-- An element of an array. -/
theorem accesses_of_ends_indexValue {r : Except RuntimeError Value}
    (hends : (indexValue (.array h) raw line m).Ends es (r, m')) :
    Accesses h raw line (reading h) es r := by
  refine accesses_of_ends hends fun n i es hcell => ?_
  cases hcell with
  | @answered _ _ _ v? es _ hrest =>
    refine ⟨_, ?_, v?, rfl, ?_⟩
    · cases v? <;> obtain ⟨rfl, -⟩ := Process.ends_done_iff.mp hrest <;> rfl
    · rintro v rfl
      obtain ⟨-, heq⟩ := Process.ends_done_iff.mp hrest
      exact (Prod.mk.inj heq).1

/-- An assignment to an element. -/
theorem accesses_of_ends_storeCell {v : Value} {r : Except RuntimeError Unit}
    (hends : (storeCell h raw v line m).Ends es (r, m')) :
    Accesses h raw line (storing h v) es r := by
  refine accesses_of_ends hends fun n i es hcell => ?_
  cases hcell with
  | @answered _ _ _ stored es _ hrest =>
    refine ⟨_, ?_, stored, rfl, ?_⟩
    · cases stored <;> obtain ⟨rfl, -⟩ := Process.ends_done_iff.mp hrest <;> rfl
    · rintro rfl
      obtain ⟨-, heq⟩ := Process.ends_done_iff.mp hrest
      exact (Prod.mk.inj heq).1

/-- A character of a text. Nothing is asked for, and the place is always there. -/
theorem indexValue_text (s : String) :
    indexValue (.text s) raw line m =
      match Number.slot? raw s.length with
      | some i => .done (.ok (.text (String.singleton (s.toList.getD i default))), m)
      | none => .done (.error ⟨.indexOutOfBounds raw s.length, line⟩, m) := by
  refine (slotOf_bind_apply _ _).trans ?_
  cases hslot : Number.slot? raw s.length with
  | none => rfl
  | some i =>
    have hlt : i < s.toList.length := Number.lt_of_slot? hslot
    simp only [List.getElem?_eq_getElem hlt, List.getD_eq_getElem?_getD, Option.getD_some]
    rfl

end Exec

/-- A store changes the cell that it is for and no other. -/
theorem World.cell?_answer_setCell (w : World) (unit : UnitId) {i : Nat} (v : Value)
    (hi : i < w.heap.length h) (h' : Handle) (j : Nat) :
    (w.answer unit (.setCell h i v)).2.heap.cell? h' j =
      if h' = h ∧ j = i then some v else w.heap.cell? h' j := by
  simp only [World.answer, if_pos hi]
  exact Heap.cell?_setCell hi v h' j

/-! ## Indexing -/

/-- **Accesses through numbers never miss.** In every run of every program and at every point of it, arrays
keep the lengths that they were made with, and a failed bounds check is one of a number without a place
(`Task.InBounds`). Where a length is a double, the numbers with a place are those between `-1` and the length,
if there is any place, and the place is the number truncated toward zero. A read and an assignment use that
place and no other. -/
theorem Exec.indexing :
    (∀ n clock ss m w t w', Task.Reaches (.start clock (runProgram n ss) m) w t w' → t.InBounds w') ∧
    (∀ (w : World) unit items, w.heap.get? (w.answer unit (.alloc items)).1 = none ∧
      (w.answer unit (.alloc items)).2.heap.length (w.answer unit (.alloc items)).1 = items.length) ∧
    (∀ raw length i, length ≤ 2 ^ 53 → (Number.slot? raw length = some i ↔ 0 < length ∧
      ∃ q, Number.value? raw = some q ∧ -1 < q ∧ q < length ∧ (i : ℤ) = Number.truncate q)) ∧
    (∀ h raw line m es r m', (indexValue (.array h) raw line m).Ends es (r, m') →
      Accesses h raw line (reading h) es r) ∧
    (∀ s raw line m, indexValue (.text s) raw line m =
      match Number.slot? raw s.length with
      | some i => .done (.ok (.text (String.singleton (s.toList.getD i default))), m)
      | none => .done (.error ⟨.indexOutOfBounds raw s.length, line⟩, m)) ∧
    (∀ h raw v line m es r m', (storeCell h raw v line m).Ends es (r, m') →
      Accesses h raw line (storing h v) es r) ∧
    (∀ (w : World) unit h i v, i < w.heap.length h → ∀ h' j,
      (w.answer unit (.setCell h i v)).2.heap.cell? h' j =
        if h' = h ∧ j = i then some v else w.heap.cell? h' j) := by
  refine ⟨fun _ _ _ _ _ _ _ => Task.inBounds_of_reaches, fun w unit items => ⟨?_, ?_⟩,
    fun _ _ _ => Number.slot?_eq_some_iff, fun _ _ _ _ _ _ _ => accesses_of_ends_indexValue,
    fun s _ _ _ => indexValue_text s, fun _ _ _ _ _ _ _ _ => accesses_of_ends_storeCell,
    fun w unit _ _ v hi => w.cell?_answer_setCell unit v hi⟩
  · exact w.heap.get?_alloc_fresh unit items.toArray
  · exact (w.heap.length_alloc unit items.toArray).trans List.size_toArray

/-- A machine with an array. -/
def arrayMachine : Machine :=
  { Machine.initial with scopes := Scopes.new.declare "a" (.array ⟨[], 0⟩) }

/-- The world in which the array is. -/
def arrayWorld : World :=
  ⟨.deserted, ⟨[([], #[#[.number 1, .number 2]])]⟩⟩

/-- Two units that store in the array: one in front of the first place, one behind the second. -/
def arrayUnits : List Stmt := [
  .par ⟨1, [
    .assign ⟨2, .cell (.ident 2 "a") (.unary 2 .neg (.number 2 0.9)), .number 2 7⟩,
    .assign ⟨3, .cell (.ident 3 "a") (.number 3 1.9), .number 3 8⟩]⟩]

/-- The array holds what the units store. -/
def Heap.holdsStored (heap : Heap) : Bool :=
  match heap.items ⟨[], 0⟩ with
  | [.number x, .number y] => x == 7 && y == 8
  | _ => false

/-- The run has come to a good end, with what the units store in the array. -/
def Task.Outcome.hasStored : Outcome → Bool
  | .finished (.ok ()) _ w => w.heap.holdsStored
  | _ => false

/-- The array has its length after the run, and in its two places is what the units have stored. -/
theorem indexing_arrayUnits : ∃ clock m w,
    Task.Reaches (.start 0 (Exec.runProgram 20 arrayUnits) arrayMachine) arrayWorld
      (.finished clock (.ok ()) m) w ∧
    w.heap.length ⟨[], 0⟩ = 2 ∧ w.heap.holdsStored := by
  have hends : (Task.runSteps 100
      (.start 0 (Exec.runProgram 20 arrayUnits) arrayMachine) arrayWorld).hasStored := by
    decide +kernel
  cases hrun : Task.runSteps 100
    (.start 0 (Exec.runProgram 20 arrayUnits) arrayMachine) arrayWorld with
  | stuck w =>
    rw [hrun] at hends
    cases hends
  | finished r m w =>
    rw [hrun] at hends
    cases r with
    | error e => cases hends
    | ok =>
      obtain ⟨clock, hreaches⟩ := Task.reaches_of_runSteps hrun
      obtain ⟨hbounds, -⟩ := Exec.indexing
      have hstart := hbounds 20 0 arrayUnits arrayMachine arrayWorld _ _ .start
      obtain ⟨-, hlength⟩ := hstart.lengths hreaches ⟨[], 0⟩ rfl
      exact ⟨clock, m, w, hreaches, hlength, hends⟩

/-- Nothing is in an empty array, not even for a number that would be cut off to zero. -/
theorem emptyArray_refuses :
    ¬((Number.slot? (-0.5) 0).isSome ↔ ∃ q, Number.value? (-0.5) = some q ∧ -1 < q ∧ q < (0 : Nat)) := by
  intro h
  have hsome := h.mpr ⟨-1 / 2, by decide +kernel, by norm_num, by norm_num⟩
  exact absurd hsome (by decide +kernel)

end ParLang
