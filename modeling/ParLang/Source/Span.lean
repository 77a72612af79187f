/-!
# Regions of a source text

A region is a half-open interval of byte offsets into the UTF-8 form of a text. `Span.ofLine` is the
region of one line, without its terminator, which is where a complaint about a whole line points.
-/

namespace ParLang

/-- The number of bytes that the characters take in UTF-8. -/
def byteLength : List Char → Nat
  | [] => 0
  | c :: rest => c.utf8Size + byteLength rest

/-- The bytes from `start` up to, not including, `stop`. -/
structure Span where
  start : Nat
  stop : Nat
deriving DecidableEq, Inhabited

namespace Span

/-- The number of bytes in the region; an inverted region has none. -/
def length (s : Span) : Nat :=
  s.stop - s.start

/-- The region holds no byte. -/
def isEmpty (s : Span) : Bool :=
  s.length == 0

/-- The smallest region around both. -/
def union (s t : Span) : Span :=
  ⟨min s.start t.start, max s.stop t.stop⟩

end Span

/-- The lines of a text, without the `'\n'` that ends each but the last. -/
def splitLines : List Char → List (List Char)
  | [] => [[]]
  | c :: rest =>
    if c = '\n' then [] :: splitLines rest
    else
      match splitLines rest with
      | [] => [[c]]
      | line :: lines => (c :: line) :: lines

/-- The characters without the trailing ones that satisfy `p`. -/
def dropTrailing (p : Char → Bool) (cs : List Char) : List Char :=
  (cs.reverse.dropWhile p).reverse

/-- The region of the line with the given number among `lines`, the first of which starts at byte
`start` and has number 1. -/
def Span.ofLineIn : List (List Char) → Nat → Nat → Option Span
  | [], _, _ => none
  | line :: lines, start, number =>
    if number = 1 then some ⟨start, start + byteLength (dropTrailing (· == '\r') line)⟩
    else Span.ofLineIn lines (start + byteLength line + 1) (number - 1)

/-- The region of the 1-based line `number` without its terminator. A number that the text does not
reach gives the empty region at the end. -/
def Span.ofLine (source : String) (number : Nat) : Span :=
  let cs := source.toList
  let region := if number = 0 then none else Span.ofLineIn (splitLines cs) 0 number
  region.getD ⟨byteLength cs, byteLength cs⟩

end ParLang
