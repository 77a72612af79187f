import ParLang.Scope.NameMap

/-!
# Stacks of scopes

A name is looked up in the innermost scope first. A stack always has a scope: leaving the only one
leaves an empty one. `enter` hides the scopes above a depth for the time of a call, and `leave` brings
them back.
-/

namespace ParLang

/-- Scopes, the innermost and those around it from the inside out. -/
structure Scopes (α : Type) where
  inner : NameMap α
  outer : List (NameMap α)
deriving Inhabited

namespace Scopes

variable {α : Type}

/-- One empty scope. -/
def new : Scopes α :=
  ⟨.empty, []⟩

/-- The scopes from the inside out. -/
def toList (s : Scopes α) : List (NameMap α) :=
  s.inner :: s.outer

/-- The stack of the given scopes, with an empty one if there are none. -/
def ofList : List (NameMap α) → Scopes α
  | [] => new
  | inner :: outer => ⟨inner, outer⟩

/-- The number of scopes. -/
def depth (s : Scopes α) : Nat :=
  s.outer.length + 1

/-- Opens an empty scope inside the others. -/
def push (s : Scopes α) : Scopes α :=
  ⟨.empty, s.toList⟩

/-- Leaves the innermost scope. -/
def pop (s : Scopes α) : Scopes α :=
  ofList s.outer

/-- Binds a name in the innermost scope. -/
def declare (s : Scopes α) (name : String) (a : α) : Scopes α :=
  { s with inner := s.inner.insert name a }

/-- What the name stands for in the innermost scope that has it. -/
def lookIn (name : String) : List (NameMap α) → Option α
  | [] => none
  | scope :: rest =>
    match scope.find? name with
    | some a => some a
    | none => lookIn name rest

/-- What the name stands for. -/
def find? (s : Scopes α) (name : String) : Option α :=
  lookIn name s.toList

/-- Binds the name anew in the innermost scope that has it, if one does. -/
def assignIn (name : String) (a : α) : List (NameMap α) → Option (List (NameMap α))
  | [] => none
  | scope :: rest =>
    if scope.contains name then some (scope.insert name a :: rest)
    else (assignIn name a rest).map (scope :: ·)

/-- Binds a visible name anew where it is bound; `none` if no scope has it. -/
def assign? (s : Scopes α) (name : String) (a : α) : Option (Scopes α) :=
  (assignIn name a s.toList).map ofList

/-- The scopes that a call hides, and how many it does not. -/
structure Frame (α : Type) where
  depth : Nat
  hidden : List (NameMap α)

/-- Keeps the `depth` outermost scopes, at least one and at most all, and opens an empty scope in
them. -/
def enter (s : Scopes α) (depth : Nat) : Frame α × Scopes α :=
  let kept := max 1 (min depth s.depth)
  (⟨kept, s.toList.take (s.depth - kept)⟩, ⟨.empty, s.toList.drop (s.depth - kept)⟩)

/-- Leaves all but the scopes that the call did not hide, and brings back those it did. -/
def leave (s : Scopes α) (frame : Frame α) : Scopes α :=
  ofList (frame.hidden ++ s.toList.drop (s.depth - frame.depth))

end Scopes

end ParLang
