import ParLang.Execution.Process

/-!
# Comparing and writing out values

A comparison copies out the cells of two arrays, one array after the other, and goes on with the pairs
of cells; a value is written out in the same way. Each array is copied out in one step, but other units
may store in arrays between these steps, so the values that are compared or written need not have been
in the heap at any one time. Looking into an array costs depth, and for want of depth a look at an array
that contains itself comes to no end.
-/

namespace ParLang.Exec

/-- Compares pairs in turn, up to the first one that is not equal. -/
def allEqual (equal : Value → Value → Exec Bool) : List (Value × Value) → Exec Bool
  | [] => return true
  | (x, y) :: rest => do
    if ← equal x y then allEqual equal rest else return false

/-- Compares two values, looking at arrays up to a depth. Arrays are equal if they are the same or have
equal cells. -/
def equalValues : Nat → Value → Value → Exec Bool
  | _, .number x, .number y => return x == y
  | _, .bool a, .bool b => return a == b
  | _, .text s, .text t => return s == t
  | _, .void, .void => return true
  | depth, .array g, .array h =>
    if g = h then return true
    else
      match depth with
      | 0 => exhausted
      | d + 1 => do
        let xs ← inspect (.items g)
        let ys ← inspect (.items h)
        if xs.length = ys.length then allEqual (equalValues d) (xs.zip ys) else return false
  | _, _, _ => return false

/-- The texts of values, written out in turn. -/
def renderEach (render : Value → Exec String) : List Value → Exec (List String)
  | [] => return []
  | v :: rest => do
    let text ← render v
    return text :: (← renderEach render rest)

/-- The text of a value, looking at arrays up to a depth. -/
def renderValue : Nat → Value → Exec String
  | _, .number x => return Number.format x
  | _, .bool b => return if b then "true" else "false"
  | _, .text s => return s
  | _, .void => return "void"
  | 0, .array _ => exhausted
  | d + 1, .array h => do
    let items ← inspect (.items h)
    let texts ← renderEach (renderValue d) items
    return "[" ++ String.intercalate ", " texts ++ "]"

/-- Two values are compared at once, at every depth alike, or they are different arrays. -/
theorem equalValues_cases (a b : Value) :
    (∃ r, ∀ depth, equalValues depth a b = pure r) ∨
      ∃ g h, a = .array g ∧ b = .array h ∧ equalValues 0 a b = exhausted ∧
        ∀ depth, equalValues (depth + 1) a b = (do
          let xs ← inspect (.items g)
          let ys ← inspect (.items h)
          if xs.length = ys.length then allEqual (equalValues depth) (xs.zip ys)
          else return false) := by
  by_cases hboth : ∃ g h, a = .array g ∧ b = .array h
  · obtain ⟨g, h, rfl, rfl⟩ := hboth
    by_cases heq : g = h
    · refine .inl ⟨true, fun depth => ?_⟩
      cases depth <;> simp [equalValues, heq]
    · exact .inr ⟨g, h, rfl, rfl, by simp [equalValues, heq], fun depth => by simp [equalValues, heq]⟩
  · refine .inl ?_
    cases a <;> cases b
    case array.array g h => exact absurd ⟨g, h, rfl, rfl⟩ hboth
    all_goals exact ⟨_, fun depth => by cases depth <;> rfl⟩

/-- A value is written out at once, at every depth alike, or it is an array. -/
theorem renderValue_cases (v : Value) :
    (∃ text, ∀ depth, renderValue depth v = pure text) ∨
      ∃ h, v = .array h ∧ renderValue 0 v = exhausted ∧
        ∀ depth, renderValue (depth + 1) v = (do
          let items ← inspect (.items h)
          let texts ← renderEach (renderValue depth) items
          return "[" ++ String.intercalate ", " texts ++ "]") := by
  cases v with
  | array h => exact .inr ⟨h, rfl, rfl, fun depth => rfl⟩
  | _ => exact .inl ⟨_, fun depth => by cases depth <;> rfl⟩

end ParLang.Exec
