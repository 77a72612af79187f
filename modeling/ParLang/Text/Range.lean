/-!
# Ranges of code points

A class of characters is a list of ranges in ascending order. Membership stops at the first range
that lies beyond the character, so that a low character is decided by the first few ranges.

Long lists are kept in writing. A written list is made of words in hexadecimal: `aa` is one character,
`41-5a` the characters from the first to the last, and `100-136/2` every second one of these.
-/

namespace ParLang.Text

/-- The code points from `first` to `last`, both included. -/
structure Range where
  first : Nat
  last : Nat
deriving DecidableEq, Inhabited

namespace Range

/-- Some range of the ascending list holds `n`. -/
def anyContains : List Range → Nat → Bool
  | [], _ => false
  | r :: rest, n => if n < r.first then false else n ≤ r.last || anyContains rest n

/-! ## Written lists -/

/-- A written list as far as it was read: the ranges so far, and the numbers of the current word with
the last one in front. -/
structure Reading where
  found : Array Range
  numbers : List Nat

/-- The value of a digit in writing. -/
def digitValue (c : Char) : Nat :=
  if c ≤ '9' then c.toNat - '0'.toNat else c.toNat - 'a'.toNat + 10

/-- The ranges that the numbers of a word stand for. -/
def ofNumbers : List Nat → List Range
  | [only] => [⟨only, only⟩]
  | [last, first] => [⟨first, last⟩]
  | [stride, last, first] =>
    (List.range ((last - first) / stride + 1)).map fun i =>
      ⟨first + i * stride, first + i * stride⟩
  | _ => []

/-- Reads one more character. A blank ends a word, and `-` and `/` end a number. -/
def Reading.next (r : Reading) (c : Char) : Reading :=
  match r.numbers, c with
  | numbers, ' ' => ⟨r.found ++ ofNumbers numbers, [0]⟩
  | numbers, '-' | numbers, '/' => { r with numbers := 0 :: numbers }
  | number :: before, c => { r with numbers := (16 * number + digitValue c) :: before }
  | [], _ => r

/-- The ranges of a written list. -/
def readAll (written : String) : List Range :=
  let r := written.toList.foldl Reading.next ⟨#[], [0]⟩
  (r.found ++ ofNumbers r.numbers).toList

end Range

end ParLang.Text
