/-!
# Values

What an expression evaluates to. An array is a handle: copies of the value share its cells, which lie
in the heap. A handle names the unit of execution that made the array and its number among that unit's
arrays, so that the handles a unit makes do not depend on what runs beside it.
-/

namespace ParLang

/-- A unit of execution, by the way that leads to it from the main unit. The first pair is the last
step: the number of a parallel block among those its parent ran, and the place of the unit in it. -/
abbrev UnitId := List (Nat × Nat)

/-- A connection, by its number among those that the program has opened. -/
abbrev ConnectionId := Nat

/-- The name of an array. -/
structure Handle where
  owner : UnitId
  serial : Nat
deriving DecidableEq, Inhabited

/-- A value. -/
inductive Value where
  | number (x : Float)
  | bool (b : Bool)
  | text (s : String)
  | array (h : Handle)
  | void
deriving Inhabited

/-- The kinds of values. -/
inductive ValueKind where
  | number | bool | text | array | void
deriving DecidableEq, Inhabited

/-- The name of the kind in complaints. -/
def ValueKind.name : ValueKind → String
  | .number => "NUMBER"
  | .bool => "BOOL"
  | .text => "STRING"
  | .array => "ARRAY"
  | .void => "VOID"

/-- The kind of a value. -/
def Value.kind : Value → ValueKind
  | .number _ => .number
  | .bool _ => .bool
  | .text _ => .text
  | .array _ => .array
  | .void => .void

end ParLang
