import ParLang.Value.Basic

/-!
# The heap

The cells of all arrays. Each unit of execution has a region of its own to which it adds its arrays;
an array keeps its length for ever.
-/

namespace ParLang

/-- The arrays of every unit of execution. -/
structure Heap where
  regions : List (UnitId × Array (Array Value))
deriving Inhabited

namespace Heap

/-- The heap without an array. -/
def empty : Heap :=
  ⟨[]⟩

/-- The arrays of the first region of a unit. -/
def regionIn (unit : UnitId) : List (UnitId × Array (Array Value)) → Option (Array (Array Value))
  | [] => none
  | (u, arrays) :: rest => if u = unit then some arrays else regionIn unit rest

/-- The cells of an array. -/
def get? (heap : Heap) (h : Handle) : Option (Array Value) :=
  (regionIn h.owner heap.regions).bind (·[h.serial]?)

/-- Adds an array to the first region of a unit, or to a new one at the end, and gives its number
there. -/
def addIn (unit : UnitId) (items : Array Value) :
    List (UnitId × Array (Array Value)) → Nat × List (UnitId × Array (Array Value))
  | [] => (0, [(unit, #[items])])
  | (u, arrays) :: rest =>
    if u = unit then (arrays.size, (u, arrays.push items) :: rest)
    else
      let (serial, rest') := addIn unit items rest
      (serial, (u, arrays) :: rest')

/-- Makes an array for a unit. -/
def alloc (heap : Heap) (unit : UnitId) (items : Array Value) : Handle × Heap :=
  let (serial, regions) := addIn unit items heap.regions
  (⟨unit, serial⟩, ⟨regions⟩)

/-- Changes the first region of a unit. -/
def updateIn (unit : UnitId) (f : Array (Array Value) → Array (Array Value)) :
    List (UnitId × Array (Array Value)) → List (UnitId × Array (Array Value))
  | [] => []
  | (u, arrays) :: rest =>
    if u = unit then (u, f arrays) :: rest else (u, arrays) :: updateIn unit f rest

/-- Stores a value in a cell. -/
def setCell (heap : Heap) (h : Handle) (i : Nat) (v : Value) : Heap :=
  ⟨updateIn h.owner (fun arrays => arrays.modify h.serial (·.setIfInBounds i v)) heap.regions⟩

/-- The length of an array; a handle without an array counts as empty. -/
def length (heap : Heap) (h : Handle) : Nat :=
  ((heap.get? h).map Array.size).getD 0

/-- The value in a cell. -/
def cell? (heap : Heap) (h : Handle) (i : Nat) : Option Value :=
  (heap.get? h).bind (·[i]?)

/-- The values in all cells of an array. -/
def items (heap : Heap) (h : Handle) : List Value :=
  ((heap.get? h).map Array.toList).getD []

end Heap

end ParLang
