import ParLang.Proofs.Execution.Built
import ParLang.Proofs.Number.Slots
import ParLang.Proofs.Value.Heap

/-!
# The lengths of arrays

No effect changes the length of an array that is there. So what a unit has once been told of a length it may
rely on for ever, whatever other units do: that is the knowledge in the protocol here, and it grows with
every array. The units promise to ask for a cell only if they know its array to be long enough. An access
keeps the promise since it asks for the length first, and all else asks for no cell at all.
-/

namespace ParLang

variable {α β : Type}

/-! ## Lengths -/

/-- What is known of the lengths of arrays. -/
structure Lengths where
  at? : Handle → Option Nat

/-- Lengths that are known at one time are known from then on. -/
instance : Preorder Lengths where
  le k k' := ∀ h n, k.at? h = some n → k'.at? h = some n
  le_refl _ _ _ hn := hn
  le_trans _ _ _ hk hk' h n hn := hk' h n (hk h n hn)

namespace Heap

variable {heap : Heap} {h : Handle} {i n : Nat}

/-- The lengths of all arrays that there are. -/
def lengths (heap : Heap) : Lengths :=
  ⟨fun h => (heap.get? h).map Array.size⟩

/-- The length that is known of an array is the number of its cells. -/
@[simp] theorem at?_lengths (heap : Heap) (h : Handle) :
    heap.lengths.at? h = (heap.get? h).map Array.size := rfl

/-- The length read from the heap is the known one. -/
theorem length_of_lengths (hn : heap.lengths.at? h = some n) : heap.length h = n := by
  rw [length, ← at?_lengths, hn, Option.getD_some]

/-- An array without a cell may be none at all. -/
theorem lengths_of_length (hn : heap.length h = n) : n = 0 ∨ heap.lengths.at? h = some n := by
  subst hn
  rw [length, at?_lengths]
  cases heap.get? h with
  | none => exact .inl rfl
  | some cells => exact .inr rfl

/-- A cell whose slot is below the known length is there. -/
theorem isSome_cell? (hn : heap.lengths.at? h = some n) (hi : i < n) : (heap.cell? h i).isSome := by
  obtain ⟨cells, hcells, rfl⟩ := Option.map_eq_some_iff.mp hn
  rw [cell?, hcells, Option.bind_some, isSome_getElem?]
  exact hi

/-- A new array changes no known length. -/
theorem lengths_le_alloc (heap : Heap) (unit : UnitId) (items : Array Value) :
    heap.lengths ≤ (heap.alloc unit items).2.lengths := by
  intro h n hn
  have hne : h ≠ (heap.alloc unit items).1 := by
    rintro rfl
    rw [at?_lengths, get?_alloc_fresh] at hn
    cases hn
  rwa [at?_lengths, get?_alloc, if_neg hne]

/-- Storing in a cell changes no known length. -/
theorem lengths_le_setCell (heap : Heap) (h : Handle) (i : Nat) (v : Value) :
    heap.lengths ≤ (heap.setCell h i v).lengths := by
  intro h' n hn
  rw [at?_lengths, get?_setCell]
  split
  case isTrue heq =>
    obtain ⟨cells, hcells, rfl⟩ := Option.map_eq_some_iff.mp hn
    rw [← heq, hcells, Option.map_some, Option.map_some, Array.size_setIfInBounds]
  case isFalse => exact hn

end Heap

/-- **No effect changes the length of an array.** -/
theorem World.lengths_le_answer (w : World) (unit : UnitId) (e : Effect) :
    w.heap.lengths ≤ (w.answer unit e).2.heap.lengths := by
  cases e with
  | alloc items => exact w.heap.lengths_le_alloc unit items.toArray
  | setCell h i v =>
    simp only [World.answer]
    split
    · exact w.heap.lengths_le_setCell h i v
    · exact le_rfl
  | _ => exact le_rfl

/-! ## The protocol -/

/-- A failed bounds check is one of a number without a place. -/
def RuntimeError.Cause.OutOfRange : RuntimeError.Cause → Prop
  | .indexOutOfBounds raw length => Number.slot? raw length = none
  | _ => True

namespace LengthProtocol

/-- A unit asks for the cells only that are there. -/
def request (k : Lengths) : Effect → Prop
  | .inspect (.cell h i) | .setCell h i _ => ∃ n, k.at? h = some n ∧ i < n
  | _ => True

/-- It may rely on getting them, and on a length that is not zero. -/
def reply (k : Lengths) : (e : Effect) → e.Reply → Prop
  | .inspect (.length h), n => n = 0 ∨ k.at? h = some n
  | .inspect (.cell _ _), v? => v?.isSome
  | .setCell _ _ _, stored => stored = true
  | _, _ => True

variable {k k' : Lengths} {e : Effect}

/-- A request that the known lengths permit is permitted when more is known. -/
theorem request_mono (hk : k ≤ k') (h : request k e) : request k' e := by
  cases e with
  | inspect q =>
    cases q with
    | cell a i =>
      obtain ⟨n, hn, hi⟩ := h
      exact ⟨n, hk a n hn, hi⟩
    | _ => trivial
  | setCell a i v =>
    obtain ⟨n, hn, hi⟩ := h
    exact ⟨n, hk a n hn, hi⟩
  | _ => trivial

/-- Only effects on cells are restricted. -/
theorem request_of_isCell (k : Lengths) (he : e.isCell = false) : request k e := by
  cases e with
  | inspect q =>
    cases q with
    | cell a i => cases he
    | _ => trivial
  | setCell a i v => cases he
  | _ => trivial

/-- The world gives what is asked for, and its lengths are what is known then. -/
theorem answer {w : World} (unit : UnitId) (hw : k ≤ w.heap.lengths) (hreq : request k e) :
    ∃ k', k ≤ k' ∧ k' ≤ (w.answer unit e).2.heap.lengths ∧ reply k' e (w.answer unit e).1 := by
  refine ⟨_, hw.trans (w.lengths_le_answer unit e), le_rfl, ?_⟩
  cases e with
  | inspect q =>
    cases q with
    | length a => exact w.heap.lengths_of_length rfl
    | cell a i =>
      obtain ⟨n, hn, hi⟩ := hreq
      exact w.heap.isSome_cell? (hw a n hn) hi
    | _ => trivial
  | setCell a i v =>
    obtain ⟨n, hn, hi⟩ := hreq
    have hlength := w.heap.length_of_lengths (hw a n hn)
    simp only [World.answer, hlength, if_pos hi]
    rfl
  | _ => trivial

/-- What is asked of the surroundings is about no array. -/
theorem reply_of_isOutside (r : e.Reply) (he : e.isOutside = true) : reply k e r := by
  cases e with
  | inspect q => cases he
  | setCell a i v => cases he
  | _ => trivial

end LengthProtocol

/-- Units share arrays of lengths that they know. -/
def lengthProtocol : Protocol Lengths Unit where
  machine _ _ := True
  request k _ _ e := LengthProtocol.request k e
  reply k _ e r := LengthProtocol.reply k e r
  fork _ _ := True
  result r := ∀ e, r = .error e → e.cause.OutOfRange
  world k w := k ≤ w.heap.lengths
  machine_mono _ _ := trivial
  request_mono := LengthProtocol.request_mono
  fork_mono _ _ := trivial
  fork_machine _ := trivial
  answer m := LengthProtocol.answer m.unit
  outside r _ := LengthProtocol.reply_of_isOutside r
  around _ hw := hw
  panic _ _ he := by cases he; trivial

/-! ## The interpreter -/

/-- From every machine on and whatever is known, the execution asks only for cells that are there, and fails
a bounds check only for a number without a place. -/
def Exec.InBounds (x : Exec α) : Prop :=
  ∀ k m, x.Keeps lengthProtocol (fun _ r _ => ∀ e, r = .error e → e.cause.OutOfRange) k m

namespace Exec.InBounds

/-- What does nothing stays in bounds. -/
theorem pure (a : α) : InBounds (pure a : Exec α) := fun _ _ _ he => nomatch he

/-- A sequence stays in bounds if the second part does after every result of the first. -/
theorem bind {x : Exec α} {f : α → Exec β} (hx : InBounds x) (hf : ∀ a, InBounds (f a)) :
    InBounds (x >>= f) := by
  intro k m
  rw [Exec.Keeps, bind_apply, Process.keeps_bind]
  refine Process.Keeps.weaken (hx k m) ?_
  rintro k' ⟨r, m'⟩ - hr
  cases r with
  | ok a => exact hf a k' m'
  | error e => exact fun e' he' => hr e' (by cases he'; rfl)

/-- A failure stays in bounds if it does not complain about a slot below the known length. -/
theorem fail {line : Nat} {cause : RuntimeError.Cause} (h : cause.OutOfRange) :
    InBounds (fail line cause : Exec α) := by
  rintro k m e ⟨⟩
  exact h

/-- A mismatch says nothing about slots. -/
theorem mismatch (line : Nat) (what : Mismatch) : InBounds (mismatch line what : Exec α) :=
  fail trivial

/-- Changing the machine touches no cell. -/
theorem update (f : Machine → Machine) : InBounds (update f) := fun _ _ _ he => nomatch he

/-- Reading the machine touches no cell. -/
theorem machine : InBounds machine := fun _ _ _ he => nomatch he

/-- An effect on no cell stays in bounds. -/
theorem perform {e : Effect} (he : e.isCell = false) : InBounds (perform e) := fun k _ =>
  ⟨trivial, (), LengthProtocol.request_of_isCell k he, fun _ _ _ _ _ he => nomatch he⟩

/-- A fault of the surroundings says nothing about slots. -/
theorem orFail (line : Nat) (action : IoAction) (reply : Except IoFault α) :
    InBounds (orFail line action reply) := by
  cases reply with
  | ok a => exact pure a
  | error fault => exact fail trivial

/-! ### Accesses -/

section

variable {k : Lengths} {m : Machine} {post : Lengths → Except RuntimeError α → Machine → Prop}

/-- An effect in front of a continuation, for effects on cells also: the continuation has to stay in bounds
at every reply that the protocol knows of. -/
theorem keeps_perform_bind {e : Effect} {f : e.Reply → Exec α} (hreq : LengthProtocol.request k e)
    (hf : ∀ k' r, k ≤ k' → LengthProtocol.reply k' e r → (f r).Keeps lengthProtocol post k' m) :
    (Exec.perform e >>= f).Keeps lengthProtocol post k m := by
  rw [Exec.Keeps, bind_apply]
  exact ⟨trivial, (), hreq, hf⟩

/-- A number has a place, or it fails the bounds check. -/
theorem keeps_slotOf_bind {raw : Float} {length line : Nat} {f : Nat → Exec α}
    (hslot : ∀ i, Number.slot? raw length = some i → (f i).Keeps lengthProtocol post k m)
    (hnone : Number.slot? raw length = none → post k (.error ⟨.indexOutOfBounds raw length, line⟩) m) :
    (Exec.slotOf raw length line >>= f).Keeps lengthProtocol post k m := by
  unfold Exec.slotOf
  cases h : Number.slot? raw length with
  | some i => exact hslot i h
  | none => exact hnone h

end

/-- An array that has a place has its length for ever. -/
theorem at?_of_slot? {k : Lengths} {h : Handle} {raw : Float} {n i : Nat} (hn : n = 0 ∨ k.at? h = some n)
    (hi : Number.slot? raw n = some i) : k.at? h = some n ∧ i < n := by
  have hlt := Number.lt_of_slot? hi
  exact ⟨hn.resolve_left (by omega), hlt⟩

/-- An index asks for the length before it looks at the cell, and looks only at a slot below it. -/
theorem indexValue (base : Value) (raw : Float) (line : Nat) : InBounds (indexValue base raw line) := by
  intro k m
  cases base with
  | array h =>
    refine keeps_perform_bind trivial fun k₁ n _ hn => keeps_slotOf_bind (fun i hi => ?_) ?_
    · obtain ⟨hlength, hlt⟩ := at?_of_slot? hn hi
      refine keeps_perform_bind ⟨n, hlength, hlt⟩ fun k₂ v? _ hv => ?_
      obtain ⟨v, rfl⟩ := Option.isSome_iff_exists.mp hv
      exact pure v k₂ m
    · rintro hnone _ ⟨⟩
      exact hnone
  | text s =>
    refine keeps_slotOf_bind (fun i hi => ?_) ?_
    · have hlt : i < s.toList.length := Number.lt_of_slot? hi
      rw [List.getElem?_eq_getElem hlt]
      exact pure _ k m
    · rintro hnone _ ⟨⟩
      exact hnone
  | _ => exact mismatch _ _ k m

/-- A store asks for the length before it writes to the cell, and writes only to a slot below it. -/
theorem storeCell (h : Handle) (raw : Float) (v : Value) (line : Nat) :
    InBounds (storeCell h raw v line) := by
  intro k m
  refine keeps_perform_bind trivial fun k₁ n _ hn => keeps_slotOf_bind (fun i hi => ?_) ?_
  · obtain ⟨hlength, hlt⟩ := at?_of_slot? hn hi
    refine keeps_perform_bind ⟨n, hlength, hlt⟩ fun k₂ stored _ hstored => ?_
    obtain rfl : stored = true := hstored
    exact pure () k₂ m
  · rintro hnone _ ⟨⟩
    exact hnone

/-! ### Channels -/

/-- A client channel is opened without a look at any array. -/
theorem attach (line : Nat) (name host : String) (port : Nat) : InBounds (attach line name host port) := by
  refine bind (perform rfl) fun _ => bind (orFail _ _ _) fun _ => bind machine fun m =>
    bind (update _) fun _ => ?_
  cases m.channels.find? name with
  | some previous => exact perform rfl
  | none => exact pure ()

/-- Sending a line touches no cell. -/
theorem sendLine (line : Nat) (channel message : String) : InBounds (sendLine line channel message) := by
  refine bind machine fun m => ?_
  cases m.channels.find? channel with
  | none => exact fail trivial
  | some connection =>
    exact bind (perform rfl) fun _ => bind (orFail _ _ _) fun _ => bind (perform rfl) fun _ =>
      bind (orFail _ _ _) fun _ => bind (perform rfl) fun _ => bind (orFail _ _ _) fun _ => pure _

/-- Closing a channel touches no cell. -/
theorem closeChannel (channel : String) : InBounds (closeChannel channel) := by
  refine bind machine fun m => ?_
  cases m.channels.find? channel with
  | none => exact pure _
  | some connection => exact bind (update _) fun _ => bind (perform rfl) fun _ => pure _

/-- All that the interpreter builds stays in bounds. -/
theorem of_built {opens : Prop} {x : Exec α} (h : Built opens x) : InBounds x := by
  induction h with
  | pure a => exact pure a
  | bind _ _ ihx ihf => exact bind ihx ihf
  | @fail _ line cause hcause =>
    refine fail ?_
    cases cause with
    | indexOutOfBounds => cases hcause
    | _ => trivial
  | exhausted => exact fun _ _ => trivial
  | machine => exact machine
  | perform _ hcell => exact perform hcell
  | indexValue => exact indexValue _ _ _
  | storeCell => exact storeCell _ _ _ _
  | update => exact update _
  | inScope _ ih | inCall _ _ ih =>
    intro k m
    exact Process.keeps_bind.mpr (ih k _)
  | @fork _ budget units f _ ih =>
    intro k m
    rw [Exec.Keeps, bind_apply]
    refine ⟨trivial, fun k' rs _ hrs => ?_⟩
    by_cases hfailed : ∃ e, .error e ∈ rs ∧ f rs = throw e
    · obtain ⟨e, he, heq⟩ := hfailed
      have hthrow : InBounds (f rs) := heq ▸ fail (hrs _ he e rfl)
      exact hthrow k' _
    · exact ih rs hfailed k' _
  | attach => exact attach _ _ _ _
  | sendLine => exact sendLine _ _ _
  | closeChannel => exact closeChannel _

end Exec.InBounds

/-! ## Runs -/

/-- At this point of a run and from here on: arrays keep their lengths, the cells that units ask for next
are there, and what has failed a bounds check is a number without a place. -/
structure Task.InBounds (t : Task) (w : World) : Prop where
  lengths : ∀ {t' w'}, t.Reaches w t' w' → ∀ h, (w.heap.get? h).isSome →
    (w'.heap.get? h).isSome ∧ w'.heap.length h = w.heap.length h
  cell : ∀ {m h i}, t.Asks m (.inspect (.cell h i)) → (w.heap.cell? h i).isSome
  setCell : ∀ {m h i v}, t.Asks m (.setCell h i v) → (w.answer m.unit (.setCell h i v)).1 = true
  failure : ∀ {e raw length}, t.Fails e → e.cause = .indexOutOfBounds raw length →
    Number.slot? raw length = none

namespace Task

variable {t t' : Task} {w w' : World}

/-- The interpreter at any depth keeps the protocol of lengths, from whatever is known. -/
theorem endsAs_of_inBounds {x : Exec Unit} (h : x.InBounds) (k : Lengths) (m : Machine) :
    (x m).Keeps lengthProtocol (EndsAs lengthProtocol) k :=
  Process.Keeps.weaken (h k m) fun _ _ _ hr => ⟨trivial, hr⟩

/-- A unit of a block starts with what was known when the block was forked. -/
theorem forksKeep_lengths : ForksKeep lengthProtocol := fun k f _ s _ i =>
  endsAs_of_inBounds (.of_built (Exec.built_runUnit f.budget s)) k (f.machine.child i)

/-- All lengths of a world are known to the units that run in it. -/
theorem Keeps.of_reaches {x : Exec Unit} {m : Machine} {clock : Nat} (hx : x.InBounds)
    (hrun : Reaches (.start clock x m) w t w') : t.Keeps lengthProtocol w'.heap.lengths := by
  have hstart : (Task.start clock x m).Keeps lengthProtocol w.heap.lengths :=
    endsAs_of_inBounds hx w.heap.lengths m
  obtain ⟨k, -, ht, hk⟩ := hstart.run forksKeep_lengths le_rfl hrun
  exact ht.mono hk

/-- What the protocol says of a task, read off the task. -/
theorem Keeps.inBounds (h : t.Keeps lengthProtocol w.heap.lengths) : t.InBounds w where
  lengths {t' w'} hrun a ha := by
    obtain ⟨n, hn⟩ := Option.isSome_iff_exists.mp ((Option.isSome_map (f := Array.size)).trans ha)
    obtain ⟨k, hk, -, hw⟩ := h.run forksKeep_lengths le_rfl hrun
    have hn' : w'.heap.lengths.at? a = some n := hw a n (hk a n hn)
    refine ⟨?_, by rw [w'.heap.length_of_lengths hn', w.heap.length_of_lengths hn]⟩
    rw [← Option.isSome_map (f := Array.size), ← Heap.at?_lengths, hn']
    rfl
  cell hask := by
    obtain ⟨-, n, hn, hi⟩ := h.request hask
    exact w.heap.isSome_cell? hn hi
  setCell {m a i v} hask := by
    obtain ⟨-, n, hn, hi⟩ := h.request hask
    have hlength := w.heap.length_of_lengths hn
    simp only [World.answer, hlength, if_pos hi]
  failure {e raw length} hfails hcause := by
    have hrange : e.cause.OutOfRange := h.result hfails e rfl
    rwa [hcause] at hrange

/-- **Every point of every run of every program is in bounds.** -/
theorem inBounds_of_reaches {n clock : Nat} {ss : List Stmt} {m : Machine}
    (hrun : Reaches (.start clock (Exec.runProgram n ss) m) w t w') : t.InBounds w' :=
  (Keeps.of_reaches (.of_built (Exec.built_runProgram n ss)) hrun).inBounds

end Task

end ParLang
