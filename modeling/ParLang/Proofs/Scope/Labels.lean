import ParLang.Proofs.Scope.Stack

/-!
# Labels beside scopes

A stack of labels has a label for each binding of a stack of scopes, scope by scope. `Scopes.Beside R`
says so, and that `R` holds between what each name stands for and its label. Every operation on scopes
keeps it if the labels go along, and the innermost binding of a name is found beside its label
(`Beside.find?`). So whatever `R` says of the two can be used wherever a name is looked up.

A call sees the outermost scopes, `Scopes.below`, and leads back to the very labels it came from.
-/

namespace ParLang

namespace Scopes

variable {α β : Type} {R : α → β → Prop} {s s' : Scopes α} {l l' : List (NameMap α)}
  {labels labels' : Scopes β} {ls ls' : List (NameMap β)} {x name : String} {a : α} {b : β}
  {d k : Nat}

/-! ## The label of a binding -/

/-- The label of the innermost entry for the name, with the labels of each scope beside it. -/
def labelIn (x : String) : List (NameMap α) → List (NameMap β) → Option β
  | scope :: scopes, labels :: rest =>
    if scope.contains x then labels.find? x else labelIn x scopes rest
  | _, _ => none

/-- The label of what the name stands for. -/
def label? (s : Scopes α) (labels : Scopes β) (x : String) : Option β :=
  labelIn x s.toList labels.toList

/-- Scope by scope, each name has a label if it is bound, and `R` holds of the two. -/
def Beside (R : α → β → Prop) (l : List (NameMap α)) (ls : List (NameMap β)) : Prop :=
  List.Forall₂ (fun scope labels => ∀ x, Option.Rel R (scope.find? x) (labels.find? x)) l ls

/-- Either both are there or none is. -/
theorem eq_of_rel {o : Option α} {o' : Option β} (h : Option.Rel R o o') :
    (o = none ∧ o' = none) ∨ ∃ a b, o = some a ∧ o' = some b ∧ R a b := by
  cases h with
  | none => exact .inl ⟨rfl, rfl⟩
  | some hab => exact .inr ⟨_, _, rfl, rfl, hab⟩

/-- How labels fit may be described more loosely. -/
theorem Beside.imp {R' : α → β → Prop} (h : Beside R l ls) (hR : ∀ a b, R a b → R' a b) :
    Beside R' l ls := by
  refine List.Forall₂.imp (fun scope labels hscope x => ?_) h
  obtain ⟨hs, hl⟩ | ⟨a, b, hs, hl, hab⟩ := eq_of_rel (hscope x)
  · rw [hs, hl]
    exact .none
  · rw [hs, hl]
    exact .some (hR a b hab)

/-- A name is bound on both sides or on neither, and its label fits. -/
theorem Beside.lookIn (h : Beside R l ls) (x : String) : Option.Rel R (lookIn x l) (lookIn x ls) := by
  induction h with
  | nil => exact .none
  | @cons scope labels l ls hscope _ ih =>
    rw [Scopes.lookIn, Scopes.lookIn]
    obtain ⟨hs, hl⟩ | ⟨a, b, hs, hl, hab⟩ := eq_of_rel (hscope x)
    · simpa only [hs, hl] using ih
    · simpa only [hs, hl] using .some hab

/-- **A name is found beside its label.** -/
theorem Beside.find? (h : Beside R s.toList labels.toList) (x : String) :
    Option.Rel R (s.find? x) (labels.find? x) :=
  h.lookIn x

/-- So a name is bound if it is labelled. -/
theorem Beside.isSome_eq (h : Beside R s.toList labels.toList) (x : String) :
    (s.find? x).isSome = (labels.find? x).isSome := by
  obtain ⟨hs, hl⟩ | ⟨a, b, hs, hl, -⟩ := eq_of_rel (h.find? x)
  · rw [hs, hl]; rfl
  · rw [hs, hl]; rfl

/-- Both stacks find a name in the same scope. -/
theorem Beside.labelIn_eq (h : Beside R l ls) (x : String) : labelIn x l ls = Scopes.lookIn x ls := by
  induction h with
  | nil => rfl
  | @cons scope labels l ls hscope _ ih =>
    rw [labelIn, Scopes.lookIn, NameMap.contains]
    obtain ⟨hs, hl⟩ | ⟨a, b, hs, hl, -⟩ := eq_of_rel (hscope x)
    · simpa [hs, hl] using ih
    · simp [hs, hl]

/-- The label of the binding that a name means is found by looking the name up among the labels. -/
theorem Beside.label?_eq (h : Beside R s.toList labels.toList) (x : String) :
    s.label? labels x = labels.find? x :=
  h.labelIn_eq x

/-- As many scopes are labelled as there are. -/
theorem Beside.depth_eq (h : Beside R s.toList labels.toList) : s.depth = labels.depth := by
  simpa using List.Forall₂.length_eq h

/-! ## Operations on both stacks -/

/-- Two new stacks are beside each other. -/
theorem beside_new : Beside R (new : Scopes α).toList (new : Scopes β).toList :=
  .cons (fun _ => .none) .nil

/-- A scope is opened on both. -/
theorem Beside.push (h : Beside R s.toList labels.toList) :
    Beside R s.push.toList labels.push.toList :=
  .cons (fun _ => .none) h

/-- Stacks that are made of lists. -/
theorem Beside.ofList (h : Beside R l ls) : Beside R (ofList l).toList (ofList ls).toList := by
  cases h with
  | nil => exact beside_new
  | cons hscope hrest => exact .cons hscope hrest

/-- A scope is closed on both. -/
theorem Beside.pop (h : Beside R s.toList labels.toList) :
    Beside R s.pop.toList labels.pop.toList := by
  cases h with
  | cons _ houter => exact Beside.ofList houter

/-- A name is declared on both, with a label that fits. -/
theorem Beside.declare (h : Beside R s.toList labels.toList) (hab : R a b) :
    Beside R (s.declare name a).toList (labels.declare name b).toList := by
  cases h with
  | cons hinner houter =>
    refine .cons (fun x => ?_) houter
    simp only [Scopes.declare, NameMap.find?_insert]
    split
    · exact .some hab
    · exact hinner x

/-- An assignment keeps the label of the name. -/
theorem Beside.assignIn (h : Beside R l ls) (ha : assignIn name a l = some l')
    (hb : Scopes.lookIn name ls = some b) (hab : R a b) : Beside R l' ls := by
  induction h generalizing l' with
  | nil => cases ha
  | @cons scope labels l ls hscope hrest ih =>
    rw [Scopes.assignIn, NameMap.contains] at ha
    rw [Scopes.lookIn] at hb
    obtain ⟨hs, hl⟩ | ⟨_, b', hs, hl, -⟩ := eq_of_rel (hscope name)
    · simp only [hs, Option.isSome_none, Bool.false_eq_true, if_false] at ha
      simp only [hl] at hb
      obtain ⟨l₁, hl₁, rfl⟩ := Option.map_eq_some_iff.mp ha
      exact .cons hscope (ih hl₁ hb)
    · simp only [hs, Option.isSome_some, if_true] at ha
      simp only [hl] at hb
      obtain rfl := Option.some.inj ha
      obtain rfl := Option.some.inj hb
      refine .cons (fun x => ?_) hrest
      rw [NameMap.find?_insert]
      split
      · next hx =>
        rw [← hx, hl]
        exact .some hab
      · exact hscope x

/-- A value that fits the label may be assigned. -/
theorem Beside.assign? (h : Beside R s.toList labels.toList) (ha : s.assign? name a = some s')
    (hb : labels.find? name = some b) (hab : R a b) : Beside R s'.toList labels.toList :=
  h.assignIn (assign?_eq_some ha) hb hab

/-- A call starts on the same outer scopes of both. -/
theorem Beside.enter (h : Beside R s.toList labels.toList) (d : Nat) :
    Beside R (s.enter d).2.toList (labels.enter d).2.toList := by
  simp only [Scopes.enter, h.depth_eq]
  exact .cons (fun _ => .none) (List.forall₂_drop _ h)

/-- A call ends on both, and the scopes that it hid are back. -/
theorem Beside.leave (h : Beside R s.toList labels.toList) (h' : Beside R s'.toList labels'.toList)
    (d : Nat) :
    Beside R (s'.leave (s.enter d).1).toList (labels'.leave (labels.enter d).1).toList := by
  simp only [Scopes.leave, Scopes.enter, h.depth_eq, h'.depth_eq]
  exact Beside.ofList (List.rel_append (List.forall₂_take _ h) (List.forall₂_drop _ h'))

/-! ## The outermost scopes -/

/-- The `k` outermost scopes, from the inside out. -/
def below (s : Scopes α) (k : Nat) : List (NameMap α) :=
  s.toList.drop (s.depth - k)

/-- All scopes are below the depth. -/
theorem below_depth (s : Scopes α) : s.below s.depth = s.toList := by
  simp [below]

/-- A new scope is above all others. -/
theorem below_push (hk : k ≤ s.depth) : s.push.below k = s.below k := by
  rw [below, below, toList_push, depth_push, Nat.succ_sub hk, List.drop_succ_cons]

/-- A declaration changes the innermost scope only. -/
theorem below_declare (hk : k < s.depth) : (s.declare name a).below k = s.below k := by
  have hdepth : (s.declare name a).depth = s.depth := rfl
  obtain ⟨i, hi⟩ : ∃ i, s.depth - k = i + 1 := ⟨s.depth - k - 1, by omega⟩
  rw [below, below, hdepth, hi, toList_declare, toList, List.drop_succ_cons, List.drop_succ_cons]

section Call

variable (hpos : 0 < d) (hd : d ≤ s.depth)
include hpos hd

/-- A call keeps the scopes that it sees. -/
theorem below_enter (hk : k ≤ d) : (s.enter d).2.below k = s.below k := by
  rw [below, below, toList_enter hpos hd, depth_enter hpos hd, Nat.succ_sub hk,
    List.drop_succ_cons, List.drop_drop]
  congr 1
  omega

/-- What a call sees of the scopes is what is below its depth. -/
theorem find?_enter (x : String) : (s.enter d).2.find? x = Scopes.lookIn x (s.below d) := by
  rw [Scopes.find?, toList_enter hpos hd, Scopes.lookIn]
  rfl

/-- A call that leaves the scopes of its function as they were leads back to where it came from. -/
theorem leave_enter (h : s'.outer = (s.enter d).2.outer) : s'.leave (s.enter d).1 = s := by
  have houter : s'.outer = s.toList.drop (s.depth - d) := by
    rw [h, enter_eq hpos hd]
  have hdepth : s'.depth - d = 1 := by
    rw [depth, houter, List.length_drop, length_toList]
    omega
  have htail : s'.toList.drop 1 = s.toList.drop (s.depth - d) := houter
  rw [leave, enter_eq hpos hd, hdepth, htail, List.take_append_drop]
  rfl

end Call

/-- Closing a scope brings back what it stood on. -/
theorem pop_push (h : s'.outer = s.push.outer) : s'.pop = s := by
  rw [pop, h]
  rfl

end Scopes

end ParLang
