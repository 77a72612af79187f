import ParLang.Proofs.Execution.Conclusion
import ParLang.Proofs.Soundness.Operations

/-!
# What evaluation yields

The evaluation of an expression without calls of the program's own functions, by itself: `Exec.Yields` says
that it comes to a value with the given property, to a failure that a check cannot foresee, or to where
it waits for the other side of a channel, and that by then every binding and every array that was there
is as it was. There is one rule for each way to build an execution.

Types are those of the values as they are: an array has a type if its cells do, so that an empty one has
every array type. No typing of the heap is kept beside it, because nothing that is there changes.
-/

namespace ParLang

variable {α β : Type} {heap heap' : Heap} {w w' : World} {m m' : Machine} {v : Value}
  {t : StaticType} {line : Nat}

/-! ## Values -/

/-- The static type of a value as it is. An array is there and holds only scalars of its element type. -/
inductive Value.OfType (heap : Heap) : Value → StaticType → Prop where
  | scalar {v : Value} {t} (h : v.HasType .empty t) : OfType heap v t
  | array {h cells element t} (hcells : heap.get? h = some cells)
      (hscalars : ∀ v ∈ cells, v.HasType .empty element) (ht : element.arrayOf? = some t) :
      OfType heap (.array h) t

/-- The arrays that are there stay as they are. -/
def Heap.Extends (heap heap' : Heap) : Prop :=
  ∀ h cells, heap.get? h = some cells → heap'.get? h = some cells

namespace Value.OfType

/-- A value has its type in every heap that goes on from this one. -/
theorem mono (hheap : heap.Extends heap') (h : v.OfType heap t) : v.OfType heap' t := by
  cases h with
  | scalar h => exact .scalar h
  | array hcells hscalars ht => exact .array (hheap _ _ hcells) hscalars ht

/-- A value that is no array is a scalar. -/
theorem hasType (h : v.OfType heap t) (ht : t.isArray = false) : v.HasType .empty t := by
  cases h with
  | scalar h => exact h
  | array _ _ helement =>
    rw [StaticType.isArray, StaticType.arrayOf?_eq_some_iff.mp helement] at ht
    cases ht

/-- A value of the type of numbers is one. -/
theorem eq_number (h : v.OfType heap .number) : ∃ x, v = .number x :=
  (h.hasType rfl).eq_number

/-- A value of the type of truth values is one. -/
theorem eq_bool (h : v.OfType heap .bool) : ∃ b, v = .bool b :=
  (h.hasType rfl).eq_bool

/-- A value of the type of texts is one. -/
theorem eq_text (h : v.OfType heap .string) : ∃ s, v = .text s :=
  (h.hasType rfl).eq_text

/-- A value of an array type is an array with such cells. -/
theorem eq_array {element : StaticType} (h : v.OfType heap t) (ht : t.element? = some element) :
    ∃ h cells, v = .array h ∧ heap.get? h = some cells ∧ ∀ v ∈ cells, v.HasType .empty element := by
  cases h with
  | scalar h =>
    obtain ⟨h, -, hnone⟩ := h.element ht
    cases hnone
  | array hcells hscalars helement =>
    rw [StaticType.arrayOf?_eq_some_iff.mp helement] at ht
    obtain rfl := Option.some.inj ht
    exact ⟨_, _, rfl, hcells, hscalars⟩

end Value.OfType

/-! ## The judgement -/

/-- The cause is one that neither the types of values nor the names in scope rule out. -/
def RuntimeError.Cause.Unforeseen : RuntimeError.Cause → Prop
  | .indexOutOfBounds _ _ | .invalidNumber _ | .invalidPattern _ | .undefinedChannel _ | .io _ _ => True
  | .typeMismatch (.noTruth _) => True
  | _ => False

/-- What was there stays as it was: every binding, and every array. -/
structure Steady (w : World) (m : Machine) (w' : World) (m' : Machine) : Prop where
  scopes : m'.scopes = m.scopes
  arrays : w.heap.Extends w'.heap

namespace Steady

variable {w'' : World} {m'' : Machine}

/-- Nothing has changed. -/
theorem refl (w : World) (m : Machine) : Steady w m w m :=
  ⟨rfl, fun _ _ h => h⟩

/-- To be steady is transitive. -/
theorem trans (h : Steady w m w' m') (h' : Steady w' m' w'' m'') : Steady w m w'' m'' :=
  ⟨h'.scopes.trans h.scopes, fun g cells hg => h'.arrays g cells (h.arrays g cells hg)⟩

end Steady

/-- How the evaluation of an expression that began in `w` with `m` may conclude; `Q` says more about a
value. It waits only where it has sent something. -/
inductive Conclusion.Lands (w : World) (m : Machine) (Q : World → α → Prop) :
    Conclusion (Except RuntimeError α × Machine) → Prop where
  | value {a m' w'} (h : Steady w m w' m') (ha : Q w' a) : Lands w m Q (.ended (.ok a, m') w')
  | failure {e m' w'} (h : Steady w m w' m') (he : e.cause.Unforeseen) :
      Lands w m Q (.ended (.error e, m') w')
  | waiting {i m' w'} (h : Steady w m w' m') : Lands w m Q (.waiting m' (.receive i) w')

/-- By itself the execution comes to a value with `Q`, to a failure that a check cannot foresee, or to
where it waits for a line, and leaves what was there as it was. -/
def Exec.Yields (w : World) (m : Machine) (x : Exec α) (Q : World → α → Prop) : Prop :=
  ((x m).conclude w).Lands w m Q

/-- What lands where it began later lands where it began first. -/
theorem Conclusion.Lands.after {Q : World → α → Prop}
    {c : Conclusion (Except RuntimeError α × Machine)} (h : c.Lands w' m' Q)
    (hsteady : Steady w m w' m') : c.Lands w m Q := by
  cases h with
  | value h ha => exact .value (hsteady.trans h) ha
  | failure h he => exact .failure (hsteady.trans h) he
  | waiting h => exact .waiting (hsteady.trans h)

/-- The effect replaces what is in the heap. -/
def Effect.stores : Effect → Bool
  | .setCell _ _ _ => true
  | _ => false

/-- Every answer but that to a request to set a cell leaves the arrays that are there alone. -/
theorem World.extends_answer (w : World) (unit : UnitId) {e : Effect} (he : e.stores = false) :
    w.heap.Extends (w.answer unit e).2.heap := by
  cases e with
  | setCell h i v => cases he
  | alloc items =>
    intro h cells hcells
    have hne : h ≠ (w.heap.alloc unit items.toArray).1 := by
      rintro rfl
      rw [w.heap.get?_alloc_fresh] at hcells
      cases hcells
    simp only [World.answer, w.heap.get?_alloc, if_neg hne, hcells]
  | _ => exact fun _ _ h => h

namespace Exec.Yields

variable {x : Exec α} {Q Q' : World → α → Prop}

/-- Less may be said of what is given. -/
theorem weaken (h : Yields w m x Q) (hQ : ∀ w' a, w.heap.Extends w'.heap → Q w' a → Q' w' a) :
    Yields w m x Q' := by
  unfold Yields at h ⊢
  generalize (x m).conclude w = c at h
  cases h with
  | value h ha => exact .value h (hQ _ _ h.arrays ha)
  | failure h he => exact .failure h he
  | waiting h => exact .waiting h

/-- A value is given at once. -/
theorem pure {a : α} (h : Q w a) : Yields w m (Pure.pure a) Q :=
  .value (.refl w m) h

/-- A failure that types cannot foresee is one of the things that may happen. -/
theorem fail {cause : RuntimeError.Cause} (h : cause.Unforeseen) :
    Yields w m (Exec.fail line cause : Exec α) Q :=
  .failure (.refl w m) h

/-- Two executions in turn. The second begins where the first ends, with what is known by then. -/
theorem bind {f : α → Exec β} {R : World → β → Prop} (hx : Yields w m x Q)
    (hf : ∀ w' m' a, Steady w m w' m' → Q w' a → Yields w' m' (f a) R) : Yields w m (x >>= f) R := by
  unfold Yields at hx ⊢
  rw [Exec.bind_apply, Process.conclude_bind]
  generalize (x m).conclude w = c at hx
  cases hx with
  | value h ha => exact (hf _ _ _ h ha).after h
  | failure h he => exact .failure h he
  | waiting h => exact .waiting h

/-- An execution that looks at its machine. -/
theorem machine_bind {f : Machine → Exec α} (h : Yields w m (f m) Q) :
    Yields w m (Exec.machine >>= f) Q := by
  unfold Yields at h ⊢
  rw [Exec.bind_apply]
  exact h

/-- A change of the machine that no binding sees. -/
theorem update {f : Machine → Machine} (hf : (f m).scopes = m.scopes) :
    Yields w m (Exec.update f) fun _ _ => True :=
  .value ⟨hf, fun _ _ h => h⟩ trivial

/-- An effect that sets no cell and has an answer. -/
theorem perform {e : Effect} {Q : World → e.Reply → Prop} (hanswer : w.canAnswer m.unit e)
    (he : e.stores = false) (hQ : Q (w.answer m.unit e).2 (w.answer m.unit e).1) :
    Yields w m (Exec.perform e) Q := by
  unfold Yields Exec.perform
  rw [Process.conclude, if_pos hanswer]
  exact .value ⟨rfl, w.extends_answer m.unit he⟩ hQ

/-- A line is there or has to be waited for. -/
theorem receive {i : ConnectionId} : Yields w m (Exec.perform (.receive i)) fun _ _ => True := by
  unfold Yields Exec.perform
  rw [Process.conclude]
  split
  · exact .value ⟨rfl, w.extends_answer m.unit rfl⟩ trivial
  · exact .waiting (.refl w m)

/-- A new array of scalars. -/
theorem allocate {items : List Value} {element t : StaticType} (ht : element.arrayOf? = some t)
    (hitems : ∀ v ∈ items, v.HasType .empty element) :
    Yields w m (Exec.allocate items) fun w' v => v.OfType w'.heap t := by
  refine .bind (Q := fun w' h => w'.heap.get? h = some items.toArray) (.perform rfl rfl ?_)
    fun w' m' h _ hh => .pure (.array hh (by simpa using hitems) ht)
  simp only [World.answer, w.heap.get?_alloc, if_pos]

end Exec.Yields

/-! ## Effects -/

namespace Exec

/-- An effect outside the heap that can be asked for at any time, of which only the reply matters. -/
theorem perform_yields {e : Effect} (hanswer : ∀ (w : World) unit, w.canAnswer unit e)
    (he : e.stores = false) : Yields w m (perform e) fun _ _ => True :=
  .perform (hanswer w m.unit) he trivial

/-- A fault of the surroundings is a failure of this kind. -/
theorem orFail_yields {action : IoAction} {r : Except IoFault α} :
    Yields w m (orFail line action r) fun _ _ => True := by
  cases r with
  | ok a => exact .pure trivial
  | error fault => exact .fail trivial

/-- What is asked about the arrays that are there is answered from them. -/
theorem inspect_yields (q : Query) :
    Yields w m (inspect q) fun w' r => w'.heap.answer q = r :=
  .perform rfl rfl rfl

/-- The cells of an array that is there. -/
theorem inspect_items_yields {h : Handle} {cells : Array Value} (hcells : w.heap.get? h = some cells) :
    Yields w m (inspect (.items h)) fun _ vs => vs = cells.toList := by
  refine (inspect_yields _).weaken fun w' vs hheap hvs => ?_
  rw [← hvs, Heap.answer, Heap.items, hheap h cells hcells]
  rfl

/-! ## Comparisons and texts -/

/-- A scalar is compared at once. -/
theorem exists_equalValues_eq {a b : Value} (ha : a.HasType .empty t) :
    ∃ r, ∀ depth, equalValues depth a b = pure r := by
  obtain hscalar | ⟨g, h, rfl, -⟩ := equalValues_cases a b
  · exact hscalar
  · cases ha with
    | array hh => cases hh

/-- Pairs are compared in turn, if their first values have one type. -/
theorem allEqual_yields {depth : Nat} {pairs : List (Value × Value)}
    (h : ∀ pair ∈ pairs, pair.1.HasType .empty t) :
    Yields w m (allEqual (equalValues depth) pairs) fun _ _ => True := by
  induction pairs with
  | nil => exact .pure trivial
  | cons pair rest ih =>
    obtain ⟨hpair, hrest⟩ := List.forall_mem_cons.mp h
    obtain ⟨r, hr⟩ := exists_equalValues_eq (b := pair.2) hpair
    rw [allEqual, hr]
    cases r with
    | true => exact ih hrest
    | false => exact .pure trivial

/-- An array of scalars can be compared with everything, at every depth but zero. -/
theorem equalValues_yields {depth : Nat} {a b : Value} (ha : a.OfType w.heap t) :
    Yields w m (equalValues (depth + 1) a b) fun _ _ => True := by
  cases ha with
  | scalar ha =>
    obtain ⟨r, hr⟩ := exists_equalValues_eq (b := b) ha
    exact hr _ ▸ .pure trivial
  | @array g cells element _ hcells hscalars _ =>
    obtain ⟨r, hr⟩ | ⟨_, h, heq, rfl, -, hsucc⟩ := equalValues_cases (.array g) b
    · exact hr _ ▸ .pure trivial
    · obtain rfl := Value.array.inj heq
      rw [hsucc]
      refine .bind (inspect_items_yields hcells) ?_
      rintro w₁ m₁ _ - rfl
      refine .bind (inspect_yields (.items h)) fun w₂ m₂ ys _ _ => ?_
      split
      · refine allEqual_yields fun pair hpair => hscalars _ ?_
        exact Array.mem_toList_iff.mp (List.of_mem_zip hpair).1
      · exact .pure trivial

/-- A scalar is written out at once. -/
theorem exists_renderValue_eq (hv : v.HasType .empty t) :
    ∃ text, ∀ depth, renderValue depth v = pure text := by
  obtain hscalar | ⟨h, rfl, -⟩ := renderValue_cases v
  · exact hscalar
  · cases hv with
    | array hh => cases hh

/-- Values are written out in turn, if each can be. -/
theorem renderEach_yields {render : Value → Exec String} {vs : List Value}
    (h : ∀ v ∈ vs, ∀ {w' m'}, w.heap.Extends w'.heap → Yields w' m' (render v) fun _ _ => True) :
    Yields w m (renderEach render vs) fun _ _ => True := by
  induction vs generalizing w m with
  | nil => exact .pure trivial
  | cons v rest ih =>
    obtain ⟨hv, hrest⟩ := List.forall_mem_cons.mp h
    refine .bind (hv fun _ _ hh => hh) fun w₁ m₁ text hsteady _ => ?_
    refine .bind (ih fun u hu w' m' hextends => hrest u hu fun g cells hg => ?_) fun _ _ _ _ _ =>
      .pure trivial
    exact hextends g cells (hsteady.arrays g cells hg)

/-- An array of scalars can be written out, at every depth but zero. -/
theorem renderValue_yields {depth : Nat} (hv : v.OfType w.heap t) :
    Yields w m (renderValue (depth + 1) v) fun _ _ => True := by
  cases hv with
  | scalar hv =>
    obtain ⟨text, htext⟩ := exists_renderValue_eq hv
    exact htext _ ▸ .pure trivial
  | @array h cells element _ hcells hscalars _ =>
    refine .bind (inspect_items_yields hcells) ?_
    rintro w₁ m₁ _ - rfl
    refine .bind (renderEach_yields fun u hu w' m' _ => ?_) fun _ _ _ _ _ => .pure trivial
    obtain ⟨text, htext⟩ := exists_renderValue_eq (hscalars u (Array.mem_toList_iff.mp hu))
    exact htext _ ▸ .pure trivial

end Exec

end ParLang
