import ParLang.Proofs.Soundness.Invariant

/-!
# Sound executions

The protocol between units and the heap, and the judgement in which soundness is stated. `Sound` says
of an execution that it starts from a typed machine, asks only for what the protocol allows, leaves a
typed machine that has lost nothing, and fails only for causes that no type rules out. There is one
rule for each way to build an execution; the proofs about the interpreter go through these rules alone.
-/

namespace ParLang

/-- The cause is none that checking rules out. Two of the mismatches depend on a value and not on its
type: a text or an array that stands for no truth value, and a number that is no port. -/
def RuntimeError.Cause.Unchecked : RuntimeError.Cause → Prop
  | .undeclaredVariable _ | .undefinedFunction _ => False
  | .typeMismatch (.noTruth _) | .typeMismatch (.invalidPort _) => True
  | .typeMismatch _ => False
  | _ => True

/-! ## The protocol of the heap -/

namespace HeapProtocol

/-- What a unit promises about arrays, all over elements of type `t`: it stores only such elements. -/
def request (H : HeapTyping) (t : StaticType) : Effect → Prop
  | .inspect (.cell h _) | .inspect (.items h) => H.element? h = some t
  | .alloc items => t.arrayOf?.isSome ∧ ∀ v ∈ items, v.HasType H t
  | .setCell h _ v => H.element? h = some t ∧ v.HasType H t
  | _ => True

/-- What it gets. -/
def reply (H : HeapTyping) (t : StaticType) : (e : Effect) → e.Reply → Prop
  | .inspect (.cell _ _), v? => ∀ v, v? = some v → v.HasType H t
  | .inspect (.items _), vs => ∀ v ∈ vs, Value.HasType H v t
  | .alloc _, h => H.element? h = some t
  | _, _ => True

/-- The units of a fork follow the rules in what the checker sees at the fork. -/
def fork (G : Globals) (H : HeapTyping) (f : Fork) : Prop :=
  f.machine.Typed G H ∧ ∃ c d, Fits G f.machine d c.names ∧ UnitsTyped G d c f.units

/-- A unit fails only for a cause that checking does not rule out. -/
def result : UnitResult → Prop
  | .ok _ => True
  | .error e => e.cause.Unchecked

variable {H H' : HeapTyping} {t : StaticType} {e : Effect}

/-- A request that the typing permits is permitted when more arrays are typed. -/
theorem request_mono (hH : H ≤ H') (h : request H t e) : request H' t e := by
  cases e with
  | inspect q =>
    cases q with
    | cell h i => exact hH _ _ h
    | items h => exact hH _ _ h
    | _ => trivial
  | alloc items => exact ⟨h.1, fun v hv => (h.2 v hv).mono hH⟩
  | setCell h i v => exact ⟨hH _ _ h.1, h.2.mono hH⟩
  | _ => trivial

/-- The world keeps its side. -/
theorem answer {w : World} (unit : UnitId) (hw : w.heap.Typed H) (hreq : request H t e) :
    ∃ H', H ≤ H' ∧ (w.answer unit e).2.heap.Typed H' ∧ reply H' t e (w.answer unit e).1 := by
  cases e with
  | inspect q =>
    refine ⟨H, le_rfl, hw, ?_⟩
    cases q with
    | cell h i =>
      intro v hv
      obtain ⟨cells, hcells, hv⟩ := Option.bind_eq_some_iff.mp hv
      exact hw.cells h t cells hreq hcells v (Array.mem_of_getElem? hv)
    | items h =>
      intro v hv
      obtain ⟨cells, hcells⟩ : ∃ cells, w.heap.get? h = some cells := by
        rw [← Option.isSome_iff_exists, ← hw.allocated]
        simp [show H.element? h = some t from hreq]
      have hv : v ∈ cells := by simpa [World.answer, Heap.answer, Heap.items, hcells] using hv
      exact hw.cells h t cells hreq hcells v hv
    | _ => trivial
  | alloc items =>
    have hitems : ∀ v ∈ items.toArray, v.HasType H t := fun v hv => hreq.2 v (by simpa using hv)
    obtain ⟨hle, htyped⟩ := hw.alloc unit hreq.1 hitems
    exact ⟨_, hle, htyped, by simp [reply, World.answer, HeapTyping.extend]⟩
  | setCell h i v =>
    refine ⟨H, le_rfl, ?_, trivial⟩
    simp only [World.answer]
    split
    · exact hw.setCell hreq.1 hreq.2
    · exact hw
  | _ => exact ⟨H, le_rfl, hw, trivial⟩

/-- What is asked of the surroundings is about no array. -/
theorem reply_of_isOutside (r : e.Reply) (he : e.isOutside = true) : reply H t e r := by
  cases e with
  | inspect q => cases he
  | alloc items => cases he
  | _ => trivial

end HeapProtocol

/-- Units share the heap under a typing of it. -/
def heapProtocol (G : Globals) : Protocol HeapTyping StaticType where
  machine H m := m.Typed G H
  request H t _ e := HeapProtocol.request H t e
  reply := HeapProtocol.reply
  fork := HeapProtocol.fork G
  result := HeapProtocol.result
  world H w := w.heap.Typed H
  machine_mono hH h := h.mono hH
  request_mono := HeapProtocol.request_mono
  fork_mono hH h := ⟨h.1.mono hH, h.2⟩
  fork_machine h := h.1
  answer m := HeapProtocol.answer m.unit
  outside r _ := HeapProtocol.reply_of_isOutside r
  around _ hw := hw
  panic _ := trivial

/-! ## The judgement -/

variable {α β : Type} {G : Globals} {H : HeapTyping} {m : Machine}

/-- What holds behind an execution that began with `H` and `m`; `Q` says more about a result. -/
structure Leaves (G : Globals) (H : HeapTyping) (m : Machine)
    (Q : HeapTyping → α → Machine → Prop) (H' : HeapTyping) (r : Except RuntimeError α)
    (m' : Machine) : Prop where
  heap : H ≤ H'
  typed : m'.Typed G H'
  grows : m.Grows m'
  result : ∀ a, r = .ok a → Q H' a m'
  failure : ∀ e, r = .error e → e.cause.Unchecked

/-- The execution is sound from the machine `m` on: if the machine is typed, it keeps to the protocol
and ends as in `Q`. -/
def Sound (G : Globals) (H : HeapTyping) (m : Machine) (x : Exec α)
    (Q : HeapTyping → α → Machine → Prop) : Prop :=
  m.Typed G H → x.Keeps (heapProtocol G) (Leaves G H m Q) H m

namespace Sound

variable {x : Exec α} {Q Q' : HeapTyping → α → Machine → Prop}

/-- The machine may be taken to be typed. -/
theorem of_typed (h : m.Typed G H → Sound G H m x Q) : Sound G H m x Q := fun hm => h hm hm

/-- Less may be said of the end. -/
theorem weaken (h : Sound G H m x Q)
    (hQ : ∀ H' a m', H ≤ H' → m.Grows m' → Q H' a m' → Q' H' a m') : Sound G H m x Q' := by
  intro hm
  refine Process.Keeps.weaken (h hm) ?_
  rintro H' ⟨r, m'⟩ - ⟨hH, ht, hg, hok, herr⟩
  exact ⟨hH, ht, hg, fun a ha => hQ H' a m' hH hg (hok a ha), herr⟩

/-- A value is given at once. -/
theorem pure {a : α} (h : Q H a m) : Sound G H m (Pure.pure a) Q := by
  intro hm
  refine ⟨le_rfl, hm, .refl m, ?_, ?_⟩
  · rintro _ ⟨⟩; exact h
  · rintro _ ⟨⟩

/-- Two executions in turn. The second begins where the first ends, with what is known by then. -/
theorem bind {f : α → Exec β} {R : HeapTyping → β → Machine → Prop} (hx : Sound G H m x Q)
    (hf : ∀ H' a m', H ≤ H' → m.Grows m' → Q H' a m' → Sound G H' m' (f a) R) :
    Sound G H m (x >>= f) R := by
  intro hm
  rw [Exec.Keeps, Exec.bind_apply, Process.keeps_bind]
  refine Process.Keeps.weaken (hx hm) ?_
  rintro H₁ ⟨e | a, m₁⟩ - ⟨hH₁, ht₁, hg₁, hok, herr⟩
  · refine ⟨hH₁, ht₁, hg₁, ?_, ?_⟩
    · rintro _ ⟨⟩
    · rintro _ ⟨⟩; exact herr e rfl
  · refine Process.Keeps.weaken (hf H₁ a m₁ hH₁ hg₁ (hok a rfl) ht₁) ?_
    rintro H₂ ⟨r, m₂⟩ - ⟨hH₂, ht₂, hg₂, hok₂, herr₂⟩
    exact ⟨hH₁.trans hH₂, ht₂, hg₁.trans hg₂, hok₂, herr₂⟩

/-- A failure that the checker does not exclude. -/
theorem fail {line : Nat} {cause : RuntimeError.Cause} (h : cause.Unchecked) :
    Sound G H m (Exec.fail line cause) Q := by
  intro hm
  refine ⟨le_rfl, hm, .refl m, ?_, ?_⟩
  · rintro _ ⟨⟩
  · rintro _ ⟨⟩; exact h

/-- Such a failure may be thrown. -/
theorem throw {e : RuntimeError} (h : e.cause.Unchecked) :
    Sound G H m (throw e : Exec α) Q := by
  show Sound G H m (Exec.fail e.line e.cause) Q
  exact fail h

/-- A run out of depth gives nothing. -/
theorem exhausted : Sound G H m Exec.exhausted Q := fun _ => trivial

/-- An effect that the typing permits. The typing may have grown when the reply is there. -/
theorem perform {e : Effect} {Q : HeapTyping → e.Reply → Machine → Prop} (t : StaticType)
    (hreq : HeapProtocol.request H t e)
    (hQ : ∀ H' r, H ≤ H' → HeapProtocol.reply H' t e r → Q H' r m) :
    Sound G H m (Exec.perform e) Q := by
  intro hm
  refine ⟨hm, t, hreq, fun H' r hH hr => ⟨hH, hm.mono hH, .refl m, ?_, ?_⟩⟩
  · rintro _ ⟨⟩; exact hQ H' r hH hr
  · rintro _ ⟨⟩

/-- An effect about which nothing has to be promised or is known. -/
theorem perform_any {e : Effect} {Q : HeapTyping → e.Reply → Machine → Prop}
    (hreq : ∀ H t, HeapProtocol.request H t e) (hQ : ∀ H' r, H ≤ H' → Q H' r m) :
    Sound G H m (Exec.perform e) Q :=
  perform .void (hreq H .void) fun H' r hH _ => hQ H' r hH

/-- A pause shows no value. -/
theorem pause {here : Checkpoint} : Sound G H m (Exec.pause here) fun _ _ m' => m' = m :=
  perform_any (fun _ _ => trivial) fun _ _ _ => rfl

/-- An execution that looks at its machine. -/
theorem machine_bind {f : Machine → Exec α} (h : Sound G H m (f m) Q) :
    Sound G H m (Exec.machine >>= f) Q := by
  intro hm
  rw [Exec.Keeps, Exec.bind_apply]
  exact h hm

/-- A change of the machine that keeps it typed and takes nothing away. -/
theorem update {f : Machine → Machine} (ht : m.Typed G H → (f m).Typed G H)
    (hg : m.Typed G H → m.Grows (f m)) :
    Sound G H m (Exec.update f) fun _ _ m' => m' = f m := by
  intro hm
  refine ⟨le_rfl, ht hm, hg hm, ?_, ?_⟩
  · rintro _ ⟨⟩; rfl
  · rintro _ ⟨⟩

/-- An update of what no type depends on. -/
theorem update_frame {f : Machine → Machine} (hs : ∀ m, (f m).scopes = m.scopes)
    (hf : ∀ m, (f m).functions = m.functions) :
    Sound G H m (Exec.update f) fun _ _ m' => m' = f m := by
  refine update (fun hm => ⟨?_, ?_⟩) (fun _ => ⟨?_, ?_⟩)
  · rw [hs]; exact hm.bindings
  · rw [hf]; exact hm.functions
  · rw [hs]; exact Scopes.Grows.refl _
  · rw [hf]; exact fun _ _ h => h

/-- A value of its declared type is declared. -/
theorem declare {x : String} {v : Value} {t : StaticType} (hx : (x, t) ∈ G.declarations)
    (hv : v.HasType H t) :
    Sound G H m (Exec.declare x v) fun _ _ m' => (m'.scopes.find? x).isSome := by
  refine (update (fun hm => hm.declare hx hv) fun _ => ⟨?_, fun _ _ h => h⟩).weaken ?_
  · exact Scopes.grows_declare _ _ _
  · rintro H' - _ - - rfl
    simp

/-- The bindings of a block are typed and go with it. -/
theorem inScope (h : Sound G H { m with scopes := m.scopes.push } x fun H' a _ => Q H' a m)
    (hQ : ∀ H' a m', m.Grows m' → Q H' a m → Q H' a m') : Sound G H m (Exec.inScope x) Q := by
  intro hm
  have hpush : Machine.Typed G H { m with scopes := m.scopes.push } :=
    ⟨Scopes.each_empty_cons.mpr hm.bindings, hm.functions⟩
  rw [Exec.Keeps, Exec.inScope, Process.keeps_bind]
  refine Process.Keeps.weaken (h hpush) ?_
  rintro H' ⟨r, m'⟩ - ⟨hH, ht, hg, hok, herr⟩
  have hgrows : m.Grows { m' with scopes := m'.scopes.pop } := ⟨hg.scopes.pop, hg.functions⟩
  exact ⟨hH, ⟨Scopes.each_pop ht.bindings, ht.functions⟩, hgrows,
    fun a ha => hQ H' a _ hgrows (hok a ha), herr⟩

/-- Only the result of a call is seen behind it. -/
theorem inCall {d : Nat} {Q : HeapTyping → α → Prop} (hpos : 0 < d) (hd : d ≤ m.scopes.depth)
    (h : Sound G H { m with scopes := (m.scopes.enter d).2 } x fun H' a _ => Q H' a) :
    Sound G H m (Exec.inCall d x) fun H' a _ => Q H' a := by
  intro hm
  have henter : Machine.Typed G H { m with scopes := (m.scopes.enter d).2 } :=
    ⟨hm.bindings.enter hpos hd, hm.functions⟩
  show ((x _).bind _).Keeps _ _ _
  rw [Process.keeps_bind]
  refine Process.Keeps.weaken (h henter) ?_
  rintro H' ⟨r, m'⟩ - ⟨hH, ht, hg, hok, herr⟩
  refine ⟨hH, ⟨?_, ht.functions⟩, ⟨hg.scopes.leave hpos hd, hg.functions⟩, hok, herr⟩
  exact (hm.mono hH).bindings.leave hpos hd ht.bindings hg.scopes

/-- A block whose units are typed may be forked. -/
theorem fork {budget : Nat} {units : List Stmt} {c : Context} {d : Nat} (hfits : Fits G m d c.names)
    (hunits : UnitsTyped G d c units) :
    Sound G H m (Exec.fork budget units) fun _ rs _ => ∀ r ∈ rs, HeapProtocol.result r := by
  intro hm
  refine ⟨⟨hm, c, d, hfits, hunits⟩, fun H' rs hH hrs => ?_⟩
  refine ⟨hH, ⟨(hm.mono hH).bindings, hm.functions⟩, ⟨Scopes.Grows.refl _, fun _ _ h => h⟩, ?_, ?_⟩
  · rintro _ ⟨⟩; exact hrs
  · rintro _ ⟨⟩

/-- An array of items of one type is typed. -/
theorem allocate {items : List Value} {element t : StaticType} (ht : element.arrayOf? = some t)
    (hitems : ∀ v ∈ items, v.HasType H element) :
    Sound G H m (Exec.allocate items) fun H' v _ => v.HasType H' t := by
  refine .bind (Q := fun H' h _ => H'.element? h = some element)
    (perform element ⟨by simp [ht], hitems⟩ fun H' h _ hh => hh) ?_
  intro H' h m' _ _ hh
  exact .pure (.array hh ht)

end Sound

end ParLang
