import ParLang.Proofs.Scope.Names

/-!
# Stacks on top of empty scopes

`Scopes.raised k` puts `k` empty scopes around all the scopes of a stack. No name is found or bound in
them, so every operation does to the raised stack what it does to the stack, as long as a scope is left
that the stack has, and as long as a call enters at a depth that is raised too.
-/

namespace ParLang

/-! ## Maps with other entries -/

namespace NameMap

variable {α β : Type}

/-- The map with `f` applied to everything that a name stands for. -/
def map (f : α → β) (m : NameMap α) : NameMap β :=
  ⟨m.entries.map fun (name, a) => (name, f a)⟩

/-- A name is looked up among changed entries as among the others. -/
@[simp] theorem find?_map (f : α → β) (m : NameMap α) (name : String) :
    (m.map f).find? name = (m.find? name).map f := by
  have hentries : ∀ l : List (String × α),
      findIn name (l.map fun (x, a) => (x, f a)) = (findIn name l).map f := by
    intro l
    induction l with
    | nil => rfl
    | cons entry rest ih =>
      obtain ⟨x, a⟩ := entry
      by_cases hx : x = name <;> simp [findIn, hx, ih]
  exact hentries m.entries

/-- An entry may be changed before it goes in or with all others. -/
theorem insert_map (f : α → β) (m : NameMap α) (name : String) (a : α) :
    (m.insert name a).map f = (m.map f).insert name (f a) := by
  have hentries : ∀ l : List (String × α), (putIn name a l).map (fun (x, a) => (x, f a)) =
      putIn name (f a) (l.map fun (x, a) => (x, f a)) := by
    intro l
    induction l with
    | nil => rfl
    | cons entry rest ih =>
      obtain ⟨x, b⟩ := entry
      by_cases hx : x = name
      · simp [putIn, hx]
      · simpa [putIn, hx] using ih
  exact congrArg NameMap.mk (hentries m.entries)

end NameMap

namespace Scopes

variable {α : Type} {s : Scopes α} {k d : Nat}

/-- The stack on top of `k` empty scopes. -/
def raised (k : Nat) (s : Scopes α) : Scopes α :=
  ⟨s.inner, s.outer ++ List.replicate k .empty⟩

/-- The new scopes are the outermost ones. -/
theorem toList_raised (k : Nat) (s : Scopes α) :
    (s.raised k).toList = s.toList ++ List.replicate k .empty := rfl

/-- The depth is raised by their number. -/
@[simp] theorem depth_raised (k : Nat) (s : Scopes α) : (s.raised k).depth = s.depth + k := by
  simp [raised, depth, Nat.add_right_comm]

/-- Without new scopes nothing is raised. -/
@[simp] theorem raised_zero (s : Scopes α) : s.raised 0 = s := by
  simp [raised]

/-- Empty scopes at the end of a list are the outermost ones of its stack. -/
theorem ofList_append {l : List (NameMap α)} (h : l ≠ []) (k : Nat) :
    ofList (l ++ List.replicate k .empty) = (ofList l).raised k := by
  cases l with
  | nil => exact absurd rfl h
  | cons scope rest => rfl

/-! ## Names -/

/-- Empty scopes bind no name. -/
@[simp] theorem find?_raised (k : Nat) (s : Scopes α) (name : String) :
    (s.raised k).find? name = s.find? name := by
  have hempty : lookIn name (List.replicate k (NameMap.empty : NameMap α)) = none := by
    induction k with
    | zero => rfl
    | succ k ih => simpa [List.replicate_succ, lookIn] using ih
  have hlist : ∀ l : List (NameMap α),
      lookIn name (l ++ List.replicate k .empty) = lookIn name l := by
    intro l
    induction l with
    | nil => exact hempty
    | cons scope rest ih => rw [List.cons_append, lookIn, lookIn, ih]
  exact hlist s.toList

/-- Nor is there anything to assign in them. -/
theorem assign?_raised (k : Nat) (s : Scopes α) (name : String) (a : α) :
    (s.raised k).assign? name a = (s.assign? name a).map (raised k) := by
  have hempty : assignIn name a (List.replicate k (NameMap.empty : NameMap α)) = none := by
    induction k with
    | zero => rfl
    | succ k ih => simpa [List.replicate_succ, assignIn, NameMap.contains] using ih
  have hlist : ∀ l : List (NameMap α), assignIn name a (l ++ List.replicate k .empty) =
      (assignIn name a l).map (· ++ List.replicate k .empty) := by
    intro l
    induction l with
    | nil => exact hempty
    | cons scope rest ih =>
      rw [List.cons_append, assignIn, assignIn, ih]
      split
      · rfl
      · cases assignIn name a rest <;> rfl
  rw [assign?, assign?, toList_raised, hlist]
  cases hassign : assignIn name a s.toList with
  | none => rfl
  | some l =>
    have hne : l ≠ [] := fun hnil => by
      have := (grows_assignIn hassign).length_eq
      simp [hnil, toList] at this
    exact congrArg some (ofList_append hne k)

/-! ## Blocks and calls -/

/-- Of two scopes one can be left. -/
theorem pop_raised (k : Nat) (h : 1 < s.depth) : (s.raised k).pop = s.pop.raised k := by
  have hne : s.outer ≠ [] := fun hnil => by simp [depth, hnil] at h
  exact ofList_append hne k

/-- A call at a depth that is raised too hides the same scopes. -/
theorem enter_raised (hd : 0 < k → 0 < d) : (s.raised k).enter (d + k) =
    (⟨(s.enter d).1.depth + k, (s.enter d).1.hidden⟩, (s.enter d).2.raised k) := by
  have hkept : max 1 (min (d + k) (s.depth + k)) = max 1 (min d s.depth) + k := by
    have := s.depth_pos
    omega
  have hhidden : s.depth + k - (max 1 (min d s.depth) + k) = s.depth - max 1 (min d s.depth) :=
    Nat.add_sub_add_right ..
  have hle : s.depth - max 1 (min d s.depth) ≤ s.toList.length := by
    rw [length_toList]
    exact Nat.sub_le _ _
  simp only [enter, depth_raised, hkept, hhidden, toList_raised, List.take_append_of_le_length hle,
    List.drop_append_of_le_length hle]
  rfl

/-- A call that was raised leaves to what it would have left to, raised. -/
theorem leave_raised (k : Nat) (s : Scopes α) {frame : Frame α} (h : 0 < frame.depth) :
    (s.raised k).leave ⟨frame.depth + k, frame.hidden⟩ = (s.leave frame).raised k := by
  have hshown : s.depth + k - (frame.depth + k) = s.depth - frame.depth :=
    Nat.add_sub_add_right ..
  have hlt : s.depth - frame.depth < s.toList.length := by
    have := s.depth_pos
    rw [length_toList]
    omega
  have hne : frame.hidden ++ s.toList.drop (s.depth - frame.depth) ≠ [] := by
    intro hnil
    have hdrop := (List.append_eq_nil_iff.mp hnil).2
    exact absurd (List.drop_eq_nil_iff.mp hdrop) (Nat.not_le_of_lt hlt)
  rw [leave, leave, depth_raised, hshown, toList_raised,
    List.drop_append_of_le_length (Nat.le_of_lt hlt), ← List.append_assoc, ofList_append hne]

/-- A frame keeps the depth of a stack, and so it is not zero. -/
theorem enter_depth_pos (s : Scopes α) (d : Nat) : 0 < (s.enter d).1.depth :=
  s.clamp_pos d

end Scopes

end ParLang
