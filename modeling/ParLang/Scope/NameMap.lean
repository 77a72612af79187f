/-!
# Finite maps from names

A `NameMap` lists names with what they stand for. `insert` keeps one entry for each name: it replaces
the entry that is there, or adds one. The order of the entries is never looked at.
-/

namespace ParLang

/-- Names with what they stand for. -/
structure NameMap (α : Type) where
  entries : List (String × α)
deriving Inhabited

namespace NameMap

variable {α : Type}

/-- The map without a name. -/
def empty : NameMap α :=
  ⟨[]⟩

/-- What the first entry for `name` holds. -/
def findIn (name : String) : List (String × α) → Option α
  | [] => none
  | (n, a) :: rest => if n = name then some a else findIn name rest

/-- What `name` stands for. -/
def find? (m : NameMap α) (name : String) : Option α :=
  findIn name m.entries

/-- The map has the name. -/
def contains (m : NameMap α) (name : String) : Bool :=
  (m.find? name).isSome

/-- Puts `a` in the first entry for `name`, or in a new entry at the end. -/
def putIn (name : String) (a : α) : List (String × α) → List (String × α)
  | [] => [(name, a)]
  | (n, b) :: rest => if n = name then (n, a) :: rest else (n, b) :: putIn name a rest

/-- The map in which `name` stands for `a`. -/
def insert (m : NameMap α) (name : String) (a : α) : NameMap α :=
  ⟨putIn name a m.entries⟩

/-- The map without `name`. -/
def erase (m : NameMap α) (name : String) : NameMap α :=
  ⟨m.entries.filter (·.1 != name)⟩

/-- The names of the map. -/
def names (m : NameMap α) : List String :=
  m.entries.map Prod.fst

@[simp] theorem find?_empty (name : String) : (empty : NameMap α).find? name = none := rfl

theorem findIn_putIn (name x : String) (a : α) (l : List (String × α)) :
    findIn x (putIn name a l) = if name = x then some a else findIn x l := by
  induction l with
  | nil => simp [putIn, findIn]
  | cons entry rest ih =>
    obtain ⟨n, b⟩ := entry
    by_cases hn : n = name
    · subst hn
      by_cases hx : n = x <;> simp [putIn, findIn, hx]
    · by_cases hx : n = x
      · subst hx
        simp [putIn, findIn, hn, Ne.symm hn]
      · simp [putIn, findIn, hn, hx, ih]

/-- After an insertion the name stands for what was inserted, and every other name is as before. -/
@[simp] theorem find?_insert (m : NameMap α) (name x : String) (a : α) :
    (m.insert name a).find? x = if name = x then some a else m.find? x :=
  findIn_putIn name x a m.entries

theorem findIn_filter (name x : String) (l : List (String × α)) :
    findIn x (l.filter (·.1 != name)) = if name = x then none else findIn x l := by
  induction l with
  | nil => simp [findIn]
  | cons entry rest ih =>
    obtain ⟨n, b⟩ := entry
    by_cases hn : n = name
    · subst hn
      rw [List.filter_cons_of_neg (by simp), ih]
      by_cases hx : n = x <;> simp [findIn, hx]
    · by_cases hx : n = x
      · subst hx
        simp [findIn, hn, Ne.symm hn]
      · simp [findIn, hn, hx, ih]

/-- After a name is erased it stands for nothing, and every other name is as before. -/
@[simp] theorem find?_erase (m : NameMap α) (name x : String) :
    (m.erase name).find? x = if name = x then none else m.find? x :=
  findIn_filter name x m.entries

end NameMap

end ParLang
