import ParLang.Proofs.Scope.Stack

/-!
# Which names a stack of scopes binds

Two comparisons of a stack with a later one of the same height. `Scopes.SameNames` says that each scope
binds the names that it bound before, perhaps to something else. `Scopes.Settles` leaves the innermost
scope free to bind more. A scope that is opened and left again turns the second into the first, and so
does a call, which moreover brings back what it has hidden (`Scopes.above`) as it was.
-/

namespace ParLang

namespace Scopes

variable {α : Type} {s s' s'' : Scopes α} {l l' l'' : List (NameMap α)} {name : String} {a : α}
  {d : Nat}

/-! ## Comparisons -/

/-- Scope by scope, the two lists bind the same names. -/
def SameNames (l l' : List (NameMap α)) : Prop :=
  List.Forall₂ (fun scope scope' => ∀ x, scope'.contains x = scope.contains x) l l'

/-- Scopes have their own names. -/
theorem SameNames.refl (l : List (NameMap α)) : SameNames l l :=
  List.forall₂_same.mpr fun _ _ _ => rfl

/-- The comparison is transitive. -/
theorem SameNames.trans (h : SameNames l l') (h' : SameNames l' l'') : SameNames l l'' := by
  induction h generalizing l'' with
  | nil => exact h'
  | cons hscope _ ih =>
    cases h' with
    | cons hscope' hrest => exact .cons (fun x => (hscope' x).trans (hscope x)) (ih hrest)

/-- The innermost scope may bind more names than before, the others bind the same. -/
structure Settles (s s' : Scopes α) : Prop where
  inner : ∀ x, s.inner.contains x → s'.inner.contains x
  outer : SameNames s.outer s'.outer

/-- A stack settles in itself. -/
theorem Settles.refl (s : Scopes α) : Settles s s :=
  ⟨fun _ h => h, .refl _⟩

/-- To settle is transitive. -/
theorem Settles.trans (h : Settles s s') (h' : Settles s' s'') : Settles s s'' :=
  ⟨fun x hx => h'.inner x (h.inner x hx), h.outer.trans h'.outer⟩

/-- Scopes with the same names settle. -/
theorem Settles.of_sameNames (h : SameNames s.toList s'.toList) : Settles s s' := by
  cases h with
  | cons hinner houter => exact ⟨fun x hx => (hinner x).trans hx, houter⟩

/-- Settled stacks have the same depth. -/
theorem Settles.depth_eq (h : Settles s s') : s'.depth = s.depth := by
  rw [depth, depth, h.outer.length_eq]

/-- In a settled stack nothing is missing. -/
theorem Settles.grows (h : Settles s s') : Grows s.toList s'.toList :=
  .cons h.inner (h.outer.imp fun _ _ hscope x hx => (hscope x).trans hx)

/-! ## Declarations and assignments -/

/-- A declaration adds a name to the innermost scope. -/
theorem settles_declare (s : Scopes α) (name : String) (a : α) : Settles s (s.declare name a) := by
  refine ⟨fun x hx => ?_, .refl _⟩
  rw [declare, NameMap.contains_insert, hx, Bool.or_true]

/-- An assignment is to a name that is bound. -/
theorem sameNames_assignIn (h : assignIn name a l = some l') : SameNames l l' := by
  induction l generalizing l' with
  | nil => cases h
  | cons scope rest ih =>
    rw [assignIn] at h
    split at h
    · next hbound =>
      obtain rfl := Option.some.inj h
      refine .cons (fun x => ?_) (SameNames.refl rest)
      rw [NameMap.contains_insert]
      by_cases hx : name = x
      · subst hx
        simp [hbound]
      · simp [hx]
    · obtain ⟨rest', hrest, rfl⟩ := Option.map_eq_some_iff.mp h
      exact .cons (fun _ => rfl) (ih hrest)

/-- An assignment adds none. -/
theorem sameNames_assign? (h : s.assign? name a = some s') : SameNames s.toList s'.toList :=
  sameNames_assignIn (assign?_eq_some h)

/-! ## Blocks and calls -/

/-- Behind a block the scopes bind what they bound before. -/
theorem Settles.pop (h : Settles s.push s') : SameNames s.toList s'.pop.toList := by
  have houter : SameNames s.toList s'.outer := h.outer
  have hne : s'.outer ≠ [] := fun hnil => by
    have := houter.length_eq
    simp [hnil, toList] at this
  rwa [Scopes.pop, toList_ofList hne]

/-- How many scopes a call sees of a function that was defined at depth `d`: at least one and at most
all. -/
def clamp (s : Scopes α) (d : Nat) : Nat :=
  max 1 (min d s.depth)

/-- A call sees one scope at least. -/
theorem clamp_pos (s : Scopes α) (d : Nat) : 0 < s.clamp d := by
  rw [clamp]
  omega

/-- It sees no more scopes than there are. -/
theorem clamp_le (s : Scopes α) (d : Nat) : s.clamp d ≤ s.depth := by
  have := s.depth_pos
  rw [clamp]
  omega

/-- To enter at a depth is to enter at the nearest one that there is. -/
theorem enter_clamp (s : Scopes α) (d : Nat) : s.enter (s.clamp d) = s.enter d := by
  have hclamp : max 1 (min (s.clamp d) s.depth) = max 1 (min d s.depth) := by
    have := s.depth_pos
    rw [clamp]
    omega
  simp only [enter, hclamp]

/-- The scopes above the `d` outermost ones. -/
def above (s : Scopes α) (d : Nat) : List (NameMap α) :=
  s.toList.take (s.depth - d)

/-- Behind a call stand the hidden scopes as they were, and below them those that the call saw. -/
theorem Settles.toList_leave (h : Settles (s.enter d).2 s') :
    (s'.leave (s.enter d).1).toList = s.above (s.clamp d) ++ s'.outer := by
  rw [← s.enter_clamp d] at h ⊢
  exact Scopes.toList_leave (s.clamp_pos d) (s.clamp_le d) h.grows

/-- Behind a call the scopes bind what they bound before. -/
theorem Settles.leave (h : Settles (s.enter d).2 s') :
    SameNames s.toList (s'.leave (s.enter d).1).toList := by
  have houter : SameNames (s.toList.drop (s.depth - s.clamp d)) s'.outer := h.outer
  have happend : SameNames (s.above (s.clamp d) ++ s.toList.drop (s.depth - s.clamp d))
      (s.above (s.clamp d) ++ s'.outer) :=
    List.rel_append (SameNames.refl (s.above (s.clamp d))) houter
  rw [above, List.take_append_drop] at happend
  rwa [h.toList_leave]

/-- **A call brings back what it has hidden**, with everything that was bound there. -/
theorem Settles.above_leave (h : Settles (s.enter d).2 s') :
    (s'.leave (s.enter d).1).above (s.clamp d) = s.above (s.clamp d) := by
  have hdepth : (s'.leave (s.enter d).1).depth = s.depth :=
    (Settles.of_sameNames h.leave).depth_eq
  have hlength : (s.above (s.clamp d)).length = s.depth - s.clamp d := by
    simp [above]
  rw [above, hdepth, h.toList_leave, List.take_left' hlength]

/-! ## What every binding is like -/

section Each

variable {p : String → α → Prop}

/-- What holds of all bindings of a list holds of those of its stack. -/
theorem Each.ofList (h : Each p l) : Each p (ofList l).toList := by
  cases l with
  | nil =>
    intro scope hs x a ha
    obtain rfl : scope = .empty := by simpa [Scopes.ofList, new, toList] using hs
    simp at ha
  | cons scope rest => exact h

/-- A call sees bindings of the caller's, and so they are as these are. -/
theorem each_enter (h : Each p s.toList) (d : Nat) : Each p (s.enter d).2.toList := by
  rw [← s.enter_clamp d]
  exact h.enter (s.clamp_pos d) (s.clamp_le d)

/-- Behind a call there are bindings of the call and of the caller. -/
theorem each_leave (h : Each p s.toList) (h' : Each p s'.toList) :
    Each p (s'.leave (s.enter d).1).toList :=
  .ofList (each_append.mpr
    ⟨h.subset fun _ => List.mem_of_mem_take, h'.subset fun _ => List.mem_of_mem_drop⟩)

end Each

end Scopes

end ParLang
