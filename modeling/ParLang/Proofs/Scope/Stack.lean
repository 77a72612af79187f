import Mathlib.Data.List.Forall2
import ParLang.Scope.Stack

/-!
# What the operations on scopes keep

Two views of a stack of scopes carry the proofs about runs. `Scopes.Each` says something of every
binding, in whichever scope it is. `Scopes.Grows` compares two stacks of one height: scope by scope,
no name is lost. A call hides scopes and brings them back, so both views are stated on the list of
scopes, where hiding is `take` and `drop`.
-/

namespace ParLang

namespace NameMap

variable {α : Type}

/-- A name is there if it is bound to something. -/
theorem contains_iff {m : NameMap α} {x : String} : m.contains x ↔ ∃ a, m.find? x = some a := by
  rw [contains, Option.isSome_iff_exists]

/-- Inserting a name adds it to those that are there. -/
@[simp] theorem contains_insert (m : NameMap α) (name x : String) (a : α) :
    (m.insert name a).contains x = (decide (name = x) || m.contains x) := by
  by_cases h : name = x <;> simp [contains, h]

end NameMap

namespace Scopes

variable {α : Type} {s s' : Scopes α} {l l' : List (NameMap α)} {p : String → α → Prop}
  {name x : String} {a : α}

/-- There is always an innermost scope. -/
theorem toList_ne_nil (s : Scopes α) : s.toList ≠ [] := by simp [toList]

/-- The depth is the number of scopes. -/
@[simp] theorem length_toList (s : Scopes α) : s.toList.length = s.depth := by simp [toList, depth]

/-- Scopes are made of a list of them, unless it is empty. -/
theorem toList_ofList (h : l ≠ []) : (ofList l).toList = l := by
  cases l with
  | nil => exact absurd rfl h
  | cons scope rest => rfl

/-- A new scope is empty and the innermost one. -/
@[simp] theorem toList_push (s : Scopes α) : s.push.toList = .empty :: s.toList := rfl

/-- A new scope makes the stack deeper by one. -/
@[simp] theorem depth_push (s : Scopes α) : s.push.depth = s.depth + 1 := by
  simp [push, depth, toList]

/-- At least one scope is open. -/
theorem depth_pos (s : Scopes α) : 0 < s.depth := Nat.succ_pos _

/-- Leaving a scope drops the innermost one, if it is not the last. -/
theorem toList_pop (h : 1 < s.depth) : s.pop.toList = s.toList.tail := by
  refine toList_ofList fun hnil => ?_
  simp [depth, hnil] at h

/-- A declaration touches the innermost scope only. -/
@[simp] theorem toList_declare (s : Scopes α) (name : String) (a : α) :
    (s.declare name a).toList = s.inner.insert name a :: s.outer := rfl

/-! ## Looking up -/

/-- What is found stands in one of the scopes. -/
theorem lookIn_eq_some (h : lookIn x l = some a) : ∃ scope ∈ l, scope.find? x = some a := by
  induction l with
  | nil => cases h
  | cons scope rest ih =>
    rw [lookIn] at h
    split at h
    · next b hb => exact ⟨scope, by simp, by rw [hb, h]⟩
    · obtain ⟨scope', hmem, hfind⟩ := ih h
      exact ⟨scope', by simp [hmem], hfind⟩

/-- Something is found if one of the scopes has the name. -/
theorem lookIn_isSome_iff : (lookIn x l).isSome ↔ ∃ scope ∈ l, scope.contains x := by
  induction l with
  | nil => simp [lookIn]
  | cons scope rest ih =>
    rw [lookIn]
    cases h : scope.find? x with
    | none => simp [ih, NameMap.contains, h]
    | some b => simp [NameMap.contains, h]

/-- A new scope hides nothing. -/
@[simp] theorem find?_push (s : Scopes α) (x : String) : s.push.find? x = s.find? x := by
  simp [find?, lookIn]

/-- A declared name hides what it was bound to before. -/
@[simp] theorem find?_declare (s : Scopes α) (name x : String) (a : α) :
    (s.declare name a).find? x = if name = x then some a else s.find? x := by
  by_cases h : name = x <;> simp [find?, lookIn, declare, h, toList]

/-! ## Every binding -/

/-- What `p` says of a name and what it stands for holds of every binding. -/
def Each (p : String → α → Prop) (l : List (NameMap α)) : Prop :=
  ∀ scope ∈ l, ∀ x a, scope.find? x = some a → p x a

/-- A weaker property holds of every binding as well. -/
theorem Each.imp {q : String → α → Prop} (h : Each p l) (hpq : ∀ x a, p x a → q x a) : Each q l :=
  fun scope hs x a ha => hpq x a (h scope hs x a ha)

/-- What holds of every binding holds of those in fewer scopes. -/
theorem Each.subset (h : Each p l) (hsub : ∀ scope ∈ l', scope ∈ l) : Each p l' :=
  fun scope hs => h scope (hsub scope hs)

/-- The bindings of two lists of scopes are those of the one and those of the other. -/
theorem each_append : Each p (l ++ l') ↔ Each p l ∧ Each p l' := by
  constructor
  · exact fun h => ⟨h.subset (by simp +contextual), h.subset (by simp +contextual)⟩
  · rintro ⟨h, h'⟩ scope hs
    rcases List.mem_append.mp hs with hs | hs
    exacts [h scope hs, h' scope hs]

/-- The bindings are those of the innermost scope and those further out. -/
theorem each_cons {scope : NameMap α} :
    Each p (scope :: l) ↔ (∀ x a, scope.find? x = some a → p x a) ∧ Each p l := by
  simp [Each]

/-- An empty scope has no bindings. -/
theorem each_empty_cons : Each p (.empty :: l) ↔ Each p l := by
  simp [each_cons]

/-- A declaration adds one binding. -/
theorem Each.declare (h : Each p s.toList) (ha : p name a) : Each p (s.declare name a).toList := by
  obtain ⟨hinner, houter⟩ := each_cons.mp h
  refine each_cons.mpr ⟨fun x b hb => ?_, houter⟩
  rw [Scopes.declare, NameMap.find?_insert] at hb
  split at hb
  · next hx =>
    obtain rfl : a = b := Option.some.inj hb
    exact hx ▸ ha
  · exact hinner x b hb

/-- What is found is one of the bindings. -/
theorem Each.find? (h : Each p s.toList) (hx : s.find? x = some a) : p x a := by
  obtain ⟨scope, hs, hfind⟩ := lookIn_eq_some hx
  exact h scope hs x a hfind

/-! ## Names are not lost -/

/-- Scope by scope, the second list has the names of the first. -/
def Grows (l l' : List (NameMap α)) : Prop :=
  List.Forall₂ (fun scope scope' => ∀ x, scope.contains x → scope'.contains x) l l'

/-- Scopes grow to themselves. -/
theorem Grows.refl (l : List (NameMap α)) : Grows l l :=
  List.forall₂_same.mpr fun _ _ _ h => h

/-- Scopes that grow twice have grown. -/
theorem Grows.trans {l'' : List (NameMap α)} (h : Grows l l') (h' : Grows l' l'') : Grows l l'' := by
  induction h generalizing l'' with
  | nil => exact h'
  | cons hs _ ih =>
    cases h' with
    | cons hs' hrest => exact .cons (fun x hx => hs' x (hs x hx)) (ih hrest)

/-- Growing keeps the number of scopes: what is gained is gained inside them. -/
theorem Grows.length_eq (h : Grows l l') : l.length = l'.length := List.Forall₂.length_eq h

/-- Growing keeps the depth. -/
theorem Grows.depth_eq (h : Grows s.toList s'.toList) : s.depth = s'.depth := by
  simpa using h.length_eq

/-- A declaration makes the scopes grow. -/
theorem grows_declare (s : Scopes α) (name : String) (a : α) :
    Grows s.toList (s.declare name a).toList :=
  .cons (fun x hx => by simp only [declare, NameMap.contains_insert, hx, Bool.or_true])
    (Grows.refl _)

/-- Leaving the innermost scope of a stack that has grown leads back to one that has grown. -/
theorem Grows.pop (h : Grows s.push.toList s'.toList) : Grows s.toList s'.pop.toList := by
  have hdepth : 1 < s'.depth := by
    have := h.depth_eq
    have := s.depth_pos
    rw [depth_push] at *
    omega
  rw [toList_pop hdepth]
  cases hs : s'.toList with
  | nil => exact absurd hs s'.toList_ne_nil
  | cons scope rest =>
    rw [hs] at h
    cases h with
    | cons _ hrest => exact hrest

/-- Leaving a scope adds no binding. -/
theorem each_pop (h : Each p s.toList) : Each p s.pop.toList := by
  obtain ⟨inner, outer⟩ := s
  cases outer with
  | nil =>
    intro scope hs x a ha
    obtain rfl : scope = .empty := by simpa [Scopes.pop, ofList, new, toList] using hs
    simp at ha
  | cons scope rest => exact h.subset (by simp +contextual [Scopes.pop, ofList, toList])

/-! ## Assignment -/

/-- A name can be assigned if one of the scopes has it. -/
theorem assignIn_isSome_iff : (assignIn name a l).isSome ↔ ∃ scope ∈ l, scope.contains name := by
  induction l with
  | nil => simp [assignIn]
  | cons scope rest ih =>
    rw [assignIn]
    by_cases h : scope.contains name
    · simp [h]
    · simp [h, ih]

/-- An assignment changes what a name is bound to, and no scope loses a name by it. -/
theorem grows_assignIn (h : assignIn name a l = some l') : Grows l l' := by
  induction l generalizing l' with
  | nil => cases h
  | cons scope rest ih =>
    rw [assignIn] at h
    split at h
    · obtain rfl := Option.some.inj h
      exact .cons (fun x hx => by simp [hx]) (Grows.refl _)
    · obtain ⟨rest', hrest, rfl⟩ := Option.map_eq_some_iff.mp h
      exact .cons (fun _ hx => hx) (ih hrest)

/-- An assignment replaces one binding. -/
theorem Each.assignIn (h : Each p l) (ha : p name a) (hl : assignIn name a l = some l') :
    Each p l' := by
  induction l generalizing l' with
  | nil => cases hl
  | cons scope rest ih =>
    obtain ⟨hscope, hrest⟩ := each_cons.mp h
    rw [Scopes.assignIn] at hl
    split at hl
    · obtain rfl := Option.some.inj hl
      exact Each.declare (s := ⟨scope, rest⟩) h ha
    · obtain ⟨rest', hl', rfl⟩ := Option.map_eq_some_iff.mp hl
      exact each_cons.mpr ⟨hscope, ih hrest hl'⟩

/-- What an assignment to a visible name does to the list of scopes. -/
theorem assign?_eq_some (h : s.assign? name a = some s') :
    assignIn name a s.toList = some s'.toList := by
  obtain ⟨l, hl, rfl⟩ := Option.map_eq_some_iff.mp h
  have hne : l ≠ [] := fun hnil => by
    have := (grows_assignIn hl).length_eq
    simp [hnil, toList] at this
  rw [hl, toList_ofList hne]

/-- A name can be assigned if it can be found. -/
theorem assign?_isSome_iff : (s.assign? name a).isSome ↔ (s.find? name).isSome := by
  rw [find?, lookIn_isSome_iff, ← assignIn_isSome_iff (a := a)]
  simp [assign?]

/-! ## The outermost scopes -/

/-- A name stays in the scope at the same place. -/
theorem Grows.exists_of_mem {scope : NameMap α} (h : Grows l l') (hs : scope ∈ l)
    (hx : scope.contains x) : ∃ scope' ∈ l', scope'.contains x := by
  induction h with
  | nil => cases hs
  | cons hhead _ ih =>
    rcases List.mem_cons.mp hs with rfl | hs
    · exact ⟨_, by simp, hhead x hx⟩
    · obtain ⟨scope', hs', hx'⟩ := ih hs
      exact ⟨scope', by simp [hs'], hx'⟩

/-- One of the `d` outermost scopes has the name. -/
def BoundBelow (s : Scopes α) (d : Nat) (x : String) : Prop :=
  ∃ scope ∈ s.toList.reverse.take d, scope.contains x

/-- Among all open scopes a name is bound if it can be found. -/
theorem boundBelow_depth_iff : s.BoundBelow s.depth x ↔ (s.find? x).isSome := by
  have htake : s.toList.reverse.take s.depth = s.toList.reverse :=
    List.take_of_length_le (by simp)
  rw [BoundBelow, htake, find?, lookIn_isSome_iff]
  simp

/-- What is bound in some of the outermost scopes is bound in more of them. -/
theorem BoundBelow.mono {d d' : Nat} (h : s.BoundBelow d x) (hd : d ≤ d') : s.BoundBelow d' x := by
  obtain ⟨scope, hs, hx⟩ := h
  exact ⟨scope, (List.take_subset_take_left _ hd) hs, hx⟩

/-- A new scope is not among the outermost ones. -/
theorem BoundBelow.push {d : Nat} (h : s.BoundBelow d x) : s.push.BoundBelow d x := by
  obtain ⟨scope, hs, hx⟩ := h
  refine ⟨scope, ?_, hx⟩
  rw [toList_push, List.reverse_cons, List.take_append]
  exact List.mem_append_left _ hs

/-- What is bound in the outermost scopes stays bound when the scopes grow. -/
theorem Grows.boundBelow {d : Nat} (h : Grows s.toList s'.toList) (hx : s.BoundBelow d x) :
    s'.BoundBelow d x := by
  have h' : Grows (s.toList.reverse.take d) (s'.toList.reverse.take d) :=
    List.forall₂_take d (List.forall₂_reverse_iff.mpr h)
  obtain ⟨scope, hs, hx⟩ := hx
  exact h'.exists_of_mem hs hx

/-! ## Calls -/

section Call

variable {d : Nat} (hpos : 0 < d) (hd : d ≤ s.depth)
include hpos hd

/-- A call at a depth that the stack has hides what is above that depth, and nothing else. -/
theorem enter_eq :
    s.enter d = (⟨d, s.toList.take (s.depth - d)⟩, ⟨.empty, s.toList.drop (s.depth - d)⟩) := by
  have : max 1 (min d s.depth) = d := by omega
  simp [enter, this]

/-- A call sees an empty scope and the outermost ones of the caller. -/
theorem toList_enter : (s.enter d).2.toList = .empty :: s.toList.drop (s.depth - d) := by
  rw [enter_eq hpos hd]; rfl

/-- A call that sees `d` scopes has one more, its own. -/
theorem depth_enter : (s.enter d).2.depth = d + 1 := by
  rw [← length_toList, toList_enter hpos hd]
  simp; omega

/-- What is bound in the scopes that a call sees is bound in the call. -/
theorem BoundBelow.enter {k : Nat} (hk : k ≤ d) (hx : s.BoundBelow k x) :
    (s.enter d).2.BoundBelow k x := by
  have hrev : (s.enter d).2.toList.reverse.take k = s.toList.reverse.take k := by
    rw [toList_enter hpos hd, List.reverse_cons, List.reverse_drop,
      List.take_append_of_le_length (by simp; omega), List.take_take]
    congr 1
    simp; omega
  rw [BoundBelow, hrev]
  exact hx

/-- A call sees no binding that its caller did not have. -/
theorem Each.enter (h : Each p s.toList) : Each p (s.enter d).2.toList := by
  rw [toList_enter hpos hd, each_empty_cons]
  exact h.subset fun _ => List.mem_of_mem_drop

/-- Behind a call that lost no name stand the hidden scopes as they were, and below them scopes that
have grown. -/
theorem toList_leave (h : Grows (s.enter d).2.toList s'.toList) :
    (s'.leave (s.enter d).1).toList = s.toList.take (s.depth - d) ++ s'.toList.tail := by
  have hdepth : s'.depth - d = 1 := by
    have := h.depth_eq
    rw [depth_enter hpos hd] at this
    omega
  have hne : s.toList.take (s.depth - d) ++ s'.toList.tail ≠ [] := fun hnil => by
    have := congrArg List.length hnil
    simp at this
    omega
  rw [leave, enter_eq hpos hd, hdepth, List.drop_one, toList_ofList hne]

/-- Behind a call the scopes that it saw have grown, and those that were hidden are back as they were. -/
theorem Grows.leave (h : Grows (s.enter d).2.toList s'.toList) :
    Grows s.toList (s'.leave (s.enter d).1).toList := by
  rw [toList_leave hpos hd h]
  rw [toList_enter hpos hd] at h
  have htail : Grows (s.toList.drop (s.depth - d)) s'.toList.tail := by
    cases hs : s'.toList with
    | nil => exact absurd hs s'.toList_ne_nil
    | cons scope rest =>
      rw [hs] at h
      cases h with
      | cons _ hrest => exact hrest
  simpa [Grows] using List.rel_append (Grows.refl (s.toList.take (s.depth - d))) htail

/-- Behind a call the bindings are those that the call left and those that were hidden from it. -/
theorem Each.leave (h : Each p s.toList) (h' : Each p s'.toList)
    (hgrows : Grows (s.enter d).2.toList s'.toList) :
    Each p (s'.leave (s.enter d).1).toList := by
  rw [toList_leave hpos hd hgrows, each_append]
  exact ⟨h.subset fun _ => List.mem_of_mem_take, h'.subset fun _ => List.mem_of_mem_tail⟩

end Call

end Scopes

end ParLang
