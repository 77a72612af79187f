import Mathlib.Order.Nat
import ParLang.Proofs.Execution.Protocol
import ParLang.Proofs.Scope.Stack
import ParLang.Proofs.Typing.Rules
import ParLang.Proofs.Typing.Tables
import ParLang.Proofs.Value.Heap

/-!
# The invariant of typed runs

What holds between the static view of a program and a machine that runs it. A `HeapTyping` gives each
array the type of its elements and only ever grows. `Machine.Typed` says that every binding, visible
or hidden, has a value of its declared type, and that every function of the machine is one of the
program.

The scopes of the checker and those of a run do not have the same height, so `NamesBelow` does not
compare them one by one: every name that the checker sees is bound in one of the outermost scopes of
the machine, and every function that it sees can be called there. What a function needs lies below
the depth of its definition, which is why a call that hides all scopes above it takes nothing away.
-/

namespace ParLang

/-! ## Values and the heap -/

/-- The type of the elements of each array. -/
structure HeapTyping where
  element? : Handle → Option StaticType

namespace HeapTyping

/-- No array. -/
def empty : HeapTyping :=
  ⟨fun _ => none⟩

/-- The typing with one more array. -/
def extend (H : HeapTyping) (h : Handle) (t : StaticType) : HeapTyping :=
  ⟨fun h' => if h' = h then some t else H.element? h'⟩

/-- A typing grows with new arrays; an array keeps its type. -/
instance : Preorder HeapTyping where
  le H H' := ∀ h t, H.element? h = some t → H'.element? h = some t
  le_refl _ _ _ h := h
  le_trans _ _ _ h h' handle t ht := h' handle t (h handle t ht)

/-- An array that was not typed is given a type. -/
theorem le_extend {H : HeapTyping} {h : Handle} {t : StaticType} (hfresh : H.element? h = none) :
    H ≤ H.extend h t := by
  intro h' t' ht'
  have hne : h' ≠ h := by
    rintro rfl
    rw [hfresh] at ht'
    cases ht'
  simpa [extend, hne] using ht'

end HeapTyping

variable {G : Globals} {H H' : HeapTyping} {m m' : Machine} {names : Names} {d : Nat}

/-- The static type of a value. -/
inductive Value.HasType (H : HeapTyping) : Value → StaticType → Prop where
  | number {x} : HasType H (.number x) .number
  | bool {b} : HasType H (.bool b) .bool
  | text {s} : HasType H (.text s) .string
  | void : HasType H .void .void
  | array {h element t} (hh : H.element? h = some element) (ht : element.arrayOf? = some t) :
      HasType H (.array h) t

/-- A value has its type when more arrays are typed. -/
theorem Value.HasType.mono {v : Value} {t : StaticType} (hH : H ≤ H') (h : v.HasType H t) :
    v.HasType H' t := by
  cases h with
  | number => exact .number
  | bool => exact .bool
  | text => exact .text
  | void => exact .void
  | array hh ht => exact .array (hH _ _ hh) ht

/-- A value of an array type is an array with such elements. -/
theorem Value.HasType.element {v : Value} {t element : StaticType} (h : v.HasType H t)
    (ht : t.element? = some element) : ∃ h, v = .array h ∧ H.element? h = some element := by
  cases h with
  | array hh harray =>
    rw [StaticType.arrayOf?_eq_some_iff.mp harray] at ht
    obtain rfl := Option.some.inj ht
    exact ⟨_, rfl, hh⟩
  | _ => cases ht

/-- The typing has exactly the arrays of the heap, all over scalars, and every cell holds a value of
its array's element type. -/
structure Heap.Typed (H : HeapTyping) (heap : Heap) : Prop where
  allocated : ∀ h, (H.element? h).isSome ↔ (heap.get? h).isSome
  scalar : ∀ h t, H.element? h = some t → t.arrayOf?.isSome
  cells : ∀ h t cells, H.element? h = some t → heap.get? h = some cells →
    ∀ v ∈ cells, v.HasType H t

/-- A heap without arrays is typed. -/
theorem Heap.typed_empty : Heap.empty.Typed .empty where
  allocated h := by simp [HeapTyping.empty]
  scalar h t ht := by cases ht
  cells h t cells ht := by cases ht

/-- A new array is typed if its items have the type of its elements. -/
theorem Heap.Typed.alloc {heap : Heap} {items : Array Value} {t : StaticType} (h : heap.Typed H)
    (unit : UnitId) (ht : t.arrayOf?.isSome) (hitems : ∀ v ∈ items, v.HasType H t) :
    H ≤ H.extend (heap.alloc unit items).1 t ∧
      (heap.alloc unit items).2.Typed (H.extend (heap.alloc unit items).1 t) := by
  have hfresh : H.element? (heap.alloc unit items).1 = none := by
    rw [← Option.isNone_iff_eq_none, ← Option.not_isSome, Bool.not_eq_true',
      ← Bool.not_eq_true, h.allocated, heap.get?_alloc_fresh]
    simp
  have hle := HeapTyping.le_extend (t := t) hfresh
  refine ⟨hle, fun h' => ?_, fun h' t' ht' => ?_, fun h' t' cells ht' hcells v hv => ?_⟩
  · rw [heap.get?_alloc]
    by_cases hh : h' = (heap.alloc unit items).1
    · simp [HeapTyping.extend, hh]
    · simpa [HeapTyping.extend, hh] using h.allocated h'
  · by_cases hh : h' = (heap.alloc unit items).1
    · obtain rfl : t = t' := by simpa [HeapTyping.extend, hh] using ht'
      exact ht
    · exact h.scalar h' t' (by simpa [HeapTyping.extend, hh] using ht')
  · rw [heap.get?_alloc] at hcells
    by_cases hh : h' = (heap.alloc unit items).1
    · obtain rfl : t = t' := by simpa [HeapTyping.extend, hh] using ht'
      obtain rfl : items = cells := by simpa [hh] using hcells
      exact (hitems v hv).mono hle
    · exact (h.cells h' t' cells (by simpa [HeapTyping.extend, hh] using ht')
        (by simpa [hh] using hcells) v hv).mono hle

/-- A value of the type of its elements may be stored in an array. -/
theorem Heap.Typed.setCell {heap : Heap} {h : Handle} {i : Nat} {v : Value} {t : StaticType}
    (hheap : heap.Typed H) (ht : H.element? h = some t) (hv : v.HasType H t) :
    (heap.setCell h i v).Typed H where
  allocated h' := by
    rw [hheap.allocated, heap.get?_setCell]
    by_cases hh : h' = h <;> simp [hh]
  scalar := hheap.scalar
  cells h' t' cells ht' hcells v' hv' := by
    rw [heap.get?_setCell] at hcells
    by_cases hh : h' = h
    · subst hh
      obtain rfl : t = t' := Option.some.inj (ht.symm.trans ht')
      simp only [if_true, Option.map_eq_some_iff] at hcells
      obtain ⟨before, hbefore, rfl⟩ := hcells
      rcases Array.mem_or_eq_of_mem_setIfInBounds hv' with hv' | rfl
      · exact hheap.cells h' t before ht hbefore v' hv'
      · exact hv
    · rw [if_neg hh] at hcells
      exact hheap.cells h' t' cells ht' hcells v' hv'

/-! ## Machines -/

/-- Every binding has a value of the type that its name is declared with, and every function is one
of the program. -/
structure Machine.Typed (G : Globals) (H : HeapTyping) (m : Machine) : Prop where
  bindings : Scopes.Each (fun x v => ∃ t, (x, t) ∈ G.declarations ∧ v.HasType H t) m.scopes.toList
  functions : ∀ name f, m.functions.find? name = some f →
    f ∈ G.functions ∧ f.definition.name = name

/-- A machine is typed when more arrays are. -/
theorem Machine.Typed.mono (hH : H ≤ H') (h : m.Typed G H) : m.Typed G H' where
  bindings := h.bindings.imp fun _ _ ⟨t, hx, hv⟩ => ⟨t, hx, hv.mono hH⟩
  functions := h.functions

/-- A value of the declared type may be declared. -/
theorem Machine.Typed.declare {x : String} {v : Value} {t : StaticType} (h : m.Typed G H)
    (hx : (x, t) ∈ G.declarations) (hv : v.HasType H t) :
    Machine.Typed G H { m with scopes := m.scopes.declare x v } where
  bindings := h.bindings.declare ⟨t, hx, hv⟩
  functions := h.functions

/-- The second machine has as many scopes as the first, with the names of the first in each, and its
functions. -/
structure Machine.Grows (m m' : Machine) : Prop where
  scopes : Scopes.Grows m.scopes.toList m'.scopes.toList
  functions : ∀ name f, m.functions.find? name = some f → m'.functions.find? name = some f

/-- Nothing has changed. -/
theorem Machine.Grows.refl (m : Machine) : m.Grows m := ⟨Scopes.Grows.refl _, fun _ _ h => h⟩

/-- To grow is transitive. -/
theorem Machine.Grows.trans {m'' : Machine} (h : m.Grows m') (h' : m'.Grows m'') : m.Grows m'' :=
  ⟨h.scopes.trans h'.scopes, fun name f hf => h'.functions name f (h.functions name f hf)⟩

/-! ## What the checker sees can be used -/

/-- A function that can be called: the machine has it, it follows the rules in some context, and what
that context has is there below the depth of its definition. -/
inductive Callable (G : Globals) (m : Machine) : Nat → String → Signature → Prop where
  | intro {d f c s} (hf : m.functions.find? f.definition.name = some f) (hpos : 0 < f.depth)
      (hd : f.depth ≤ d) (htyped : FunctionTyped G f.depth c f.definition s)
      (hbound : ∀ x t, c.names.scopes.find? x = some t →
        m.scopes.BoundBelow f.depth x ∧ (x, t) ∈ G.declarations)
      (hcallable : ∀ g s', c.names.functions.find? g = some s' → Callable G m f.depth g s') :
      Callable G m d f.definition.name s

/-- Every name is bound, and every function callable, with the `d` outermost scopes. -/
structure NamesBelow (G : Globals) (m : Machine) (d : Nat) (names : Names) : Prop where
  bound : ∀ x t, names.scopes.find? x = some t →
    m.scopes.BoundBelow d x ∧ (x, t) ∈ G.declarations
  callable : ∀ g s, names.functions.find? g = some s → Callable G m d g s

/-- What a call may rely on. -/
theorem Callable.inv {g : String} {s : Signature} (h : Callable G m d g s) :
    ∃ f c, m.functions.find? g = some f ∧ f.definition.name = g ∧ 0 < f.depth ∧ f.depth ≤ d ∧
      FunctionTyped G f.depth c f.definition s ∧ NamesBelow G m f.depth c.names ∧
      Callable G m f.depth g s := by
  cases h with
  | intro hf hpos hd htyped hbound hcallable =>
    exact ⟨_, _, hf, rfl, hpos, hd, htyped, ⟨hbound, hcallable⟩,
      .intro hf hpos le_rfl htyped hbound hcallable⟩

/-- A function that can be called from a scope can be called further in. -/
theorem Callable.mono {d' : Nat} {g : String} {s : Signature} (h : Callable G m d g s)
    (hd' : d ≤ d') : Callable G m d' g s := by
  cases h with
  | intro hf hpos hd htyped hbound hcallable =>
    exact .intro hf hpos (hd.trans hd') htyped hbound hcallable

/-- A callable function stays so on a machine that still has all functions and, below `k`, all names,
if the function and what it needs lie below `k`. -/
theorem Callable.transfer {k : Nat} {g : String} {s : Signature} (h : Callable G m d g s)
    (hk : d ≤ k)
    (hbelow : ∀ d x, d ≤ k → m.scopes.BoundBelow d x → m'.scopes.BoundBelow d x)
    (hfunctions : ∀ name f, m.functions.find? name = some f → m'.functions.find? name = some f) :
    Callable G m' d g s := by
  induction h with
  | intro hf hpos hd htyped hbound _ ih =>
    refine .intro (hfunctions _ _ hf) hpos hd htyped (fun x t hx => ?_)
      (fun g s' hs' => ih g s' hs' (hd.trans hk))
    exact ⟨hbelow _ x (hd.trans hk) (hbound x t hx).1, (hbound x t hx).2⟩

namespace NamesBelow

/-- Names that are there for a scope are there further in. -/
theorem mono {d' : Nat} (h : NamesBelow G m d names) (hd : d ≤ d') : NamesBelow G m d' names where
  bound x t hx := ⟨(h.bound x t hx).1.mono hd, (h.bound x t hx).2⟩
  callable g s hs := (h.callable g s hs).mono hd

/-- Names stay where scopes and functions do. -/
theorem transfer (h : NamesBelow G m d names)
    (hbelow : ∀ k x, k ≤ d → m.scopes.BoundBelow k x → m'.scopes.BoundBelow k x)
    (hfunctions : ∀ name f, m.functions.find? name = some f → m'.functions.find? name = some f) :
    NamesBelow G m' d names where
  bound x t hx := ⟨hbelow d x le_rfl (h.bound x t hx).1, (h.bound x t hx).2⟩
  callable g s hs := (h.callable g s hs).transfer le_rfl hbelow hfunctions

/-- Names stay when scopes and functions are added. -/
theorem grows (h : NamesBelow G m d names) (hm : m.Grows m') : NamesBelow G m' d names :=
  h.transfer (fun _ _ _ => hm.scopes.boundBelow) hm.functions

/-- A call at a depth hides nothing that lies below it. -/
theorem enter {k : Nat} (h : NamesBelow G m d names) (hpos : 0 < k) (hd : d ≤ k)
    (hk : k ≤ m.scopes.depth) :
    NamesBelow G { m with scopes := (m.scopes.enter k).2 } d names :=
  h.transfer (fun _ _ hj => Scopes.BoundBelow.enter hpos hk (hj.trans hd)) fun _ _ hf => hf

end NamesBelow

/-- What the checker sees at a place, on a machine that comes to it with `d` scopes. -/
structure Fits (G : Globals) (m : Machine) (d : Nat) (names : Names) : Prop
    extends NamesBelow G m d names where
  depth : m.scopes.depth = d

namespace Fits

/-- What the checker sees stays when scopes and functions are added. -/
theorem grows (h : Fits G m d names) (hm : m.Grows m') : Fits G m' d names :=
  ⟨h.toNamesBelow.grows hm, hm.scopes.depth_eq.symm.trans h.depth⟩

/-- A name that the checker sees has a value of the type that the checker sees. -/
theorem find? {x : String} {t : StaticType} (h : Fits G m d names) (hm : m.Typed G H)
    (hx : names.scopes.find? x = some t) : ∃ v, m.scopes.find? x = some v ∧ v.HasType H t := by
  obtain ⟨hbound, hdeclared⟩ := h.bound x t hx
  rw [← h.depth, Scopes.boundBelow_depth_iff, Option.isSome_iff_exists] at hbound
  obtain ⟨v, hv⟩ := hbound
  obtain ⟨t', hdeclared', hv'⟩ := hm.bindings.find? hv
  exact ⟨v, hv, G.declaration_unique hdeclared' hdeclared ▸ hv'⟩

/-- The checker may open a scope where a run opens none. -/
theorem opened {c : Context} (h : Fits G m d c.names) : Fits G m d c.opened.names where
  bound x t hx := h.bound x t (by simpa [Context.opened] using hx)
  callable := h.callable
  depth := h.depth

/-- A run may open a scope where the checker opens none. -/
theorem push (h : Fits G m d names) :
    Fits G { m with scopes := m.scopes.push } (d + 1) names := by
  have hnames : NamesBelow G { m with scopes := m.scopes.push } d names :=
    h.toNamesBelow.transfer (fun _ _ _ hx => hx.push) fun _ _ hf => hf
  exact ⟨hnames.mono (Nat.le_succ d), by simp [h.depth]⟩

/-- A declared variable is seen by the checker and is there. -/
theorem declared {c : Context} {x : String} {t : StaticType} (h : Fits G m d c.names)
    (hx : (m.scopes.find? x).isSome) (hdeclared : (x, t) ∈ G.declarations) :
    Fits G m d (c.declared x t).names where
  bound y u hy := by
    simp only [Context.declared, Scopes.find?_declare] at hy
    split at hy
    · next heq =>
      subst heq
      obtain rfl := Option.some.inj hy
      exact ⟨by rwa [← h.depth, Scopes.boundBelow_depth_iff], hdeclared⟩
    · exact h.bound y u hy
  callable := h.callable
  depth := h.depth

/-- So is a defined function, which can be called. -/
theorem defined {c : Context} {f : String} {s : Signature} (h : Fits G m d c.names)
    (hf : Callable G m d f s) : Fits G m d (c.defined f s).names where
  bound := h.bound
  callable g s' hs' := by
    simp only [Context.defined, NameMap.find?_insert] at hs'
    split at hs'
    · next heq =>
      subst heq
      obtain rfl := Option.some.inj hs'
      exact hf
    · exact h.callable g s' hs'
  depth := h.depth

/-- The context of a function's parameters and body, on the machine that runs a call of it. -/
theorem inFunction {c : Context} {f : Function} {s : Signature}
    (h : NamesBelow G m f.depth c.names) (hf : Callable G m f.depth f.definition.name s)
    (hpos : 0 < f.depth) (hd : f.depth ≤ m.scopes.depth) :
    Fits G { m with scopes := (m.scopes.enter f.depth).2 } (f.depth + 1)
      (c.inFunction f.definition.name s).names := by
  have hnames := (h.enter hpos le_rfl hd).mono (Nat.le_succ _)
  have hself : Callable G { m with scopes := (m.scopes.enter f.depth).2 } f.depth
      f.definition.name s :=
    hf.transfer le_rfl (fun _ _ hj => Scopes.BoundBelow.enter hpos hd hj) fun _ _ hf => hf
  have hfits : Fits G { m with scopes := (m.scopes.enter f.depth).2 } (f.depth + 1) c.names :=
    ⟨hnames, Scopes.depth_enter hpos hd⟩
  exact (hfits.defined (hself.mono (Nat.le_succ _))).opened
    (c := { c.defined f.definition.name s with function? := _, loopDepth := _ })

end Fits

end ParLang
