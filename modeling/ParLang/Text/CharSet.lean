import ParLang.Text.Range

/-!
# Sets of characters

A set is kept as the ascending list of the ranges of its members. No two of the ranges touch, so a set
has one list, and its size in ranges is a property of the set.
-/

namespace ParLang

open Text (Range)

/-- A set of characters. -/
structure CharSet where
  ranges : List Range
deriving DecidableEq, Inhabited

namespace CharSet

/-- The code points from the range `r` and the ascending ranges behind it, in ranges that do not
touch. -/
def joinFrom (r : Range) : List Range → List Range
  | [] => [r]
  | s :: rest =>
    if s.first ≤ r.last + 1 then joinFrom ⟨r.first, max r.last s.last⟩ rest
    else r :: joinFrom s rest

/-- The set of the characters in any of the ranges. -/
def ofRanges (ranges : List Range) : CharSet :=
  match ranges.mergeSort (fun r s => decide (r.first ≤ s.first)) with
  | [] => ⟨[]⟩
  | r :: rest => ⟨joinFrom r rest⟩

/-- The set of a written list of ranges. -/
def ofWritten (written : String) : CharSet :=
  ofRanges (Range.readAll written)

/-- No character. -/
def none : CharSet :=
  ⟨[]⟩

/-- The greatest code point. -/
def lastCodePoint : Nat := 0x10FFFF

/-- Every character. -/
def all : CharSet :=
  ⟨[⟨0, lastCodePoint⟩]⟩

/-- The characters between two code points. -/
def range (first last : Nat) : CharSet :=
  if first ≤ last then ⟨[⟨first, last⟩]⟩ else .none

/-- The one character. -/
def single (c : Char) : CharSet :=
  .range c.toNat c.toNat

/-- The character with code point `n` is in the set. -/
def contains (s : CharSet) (n : Nat) : Bool :=
  Range.anyContains s.ranges n

/-- The set has no member. -/
def isEmpty (s : CharSet) : Bool :=
  s.ranges.isEmpty

/-- All members are ASCII characters. -/
def isAscii (s : CharSet) : Bool :=
  s.ranges.all (·.last < 128)

/-- The only member of a set that has one member. -/
def only? (s : CharSet) : Option Char :=
  match s.ranges with
  | [r] => if r.first = r.last then some (Char.ofNat r.first) else Option.none
  | _ => Option.none

/-! ## Set operations -/

/-- The members of either set. -/
def union (s t : CharSet) : CharSet :=
  ofRanges (s.ranges ++ t.ranges)

/-- The members of any of the sets. -/
def unions (sets : List CharSet) : CharSet :=
  ofRanges (sets.flatMap ranges)

/-- The code points from `next` on that lie in none of the ascending ranges. -/
def gapsFrom (next : Nat) : List Range → List Range
  | [] => if next ≤ lastCodePoint then [⟨next, lastCodePoint⟩] else []
  | r :: rest =>
    if next < r.first then ⟨next, r.first - 1⟩ :: gapsFrom (r.last + 1) rest
    else gapsFrom (r.last + 1) rest

/-- The range with its ends moved out of the code points that are no characters, which lie from U+D800
to U+DFFF. -/
def trimEnds (r : Range) : Range :=
  ⟨if 0xD800 ≤ r.first ∧ r.first ≤ 0xDFFF then 0xE000 else r.first,
    if 0xD800 ≤ r.last ∧ r.last ≤ 0xDFFF then 0xD7FF else r.last⟩

/-- The characters that are not in the set. -/
def negate (s : CharSet) : CharSet :=
  ⟨((gapsFrom 0 s.ranges).map trimEnds).filter fun r => r.first ≤ r.last⟩

/-- The members of both sets. -/
def inter (s t : CharSet) : CharSet :=
  (s.negate.union t.negate).negate

/-- The members of the first set that are not in the second. -/
def diff (s t : CharSet) : CharSet :=
  (s.negate.union t).negate

/-- The members of exactly one of the sets. -/
def symmDiff (s t : CharSet) : CharSet :=
  (s.union t).diff (s.inter t)

end CharSet

end ParLang
