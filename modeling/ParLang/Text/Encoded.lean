import ParLang.Text.CharSet

/-!
# Encoded characters

The bytes of the characters of a set. The characters of a range are encoded by sequences of byte ranges:
a sequence stands for every way to take a byte from each of its ranges, and all of these are characters
of the range. A range is cut until the pieces have this property: where the encoding gets longer, and
where not all last bytes belong to each of the bytes in front of them.
-/

namespace ParLang.Text

/-- The bytes of a character. -/
def encodedChar (c : Char) : List Nat :=
  (String.utf8EncodeChar c).map UInt8.toNat

/-- The bytes of characters one after another. -/
def encodedChars (cs : List Char) : List Nat :=
  cs.flatMap encodedChar

namespace Range

/-- The last code point whose encoding is one, two or three bytes long, if the range goes past it. -/
def lengthCut? (r : Range) : Option Nat :=
  [0x7F, 0x7FF, 0xFFFF].find? fun m => r.first ≤ m && m < r.last

/-- Where to cut a range so that its ends are those of blocks of the given size, unless it lies in one
block: behind a first block that is not whole, else in front of a last block that is not whole. -/
def blockCut? (r : Range) (size : Nat) : Option Nat :=
  if r.first / size = r.last / size then none
  else if r.first % size ≠ 0 then some (r.first / size * size + size - 1)
  else if r.last % size ≠ size - 1 then some (r.last / size * size - 1)
  else none

/-- Where to cut a range of characters whose encodings are equally long: at the blocks of characters
that share all bytes but the last one, but the last two, but the last three. -/
def anyBlockCut? (r : Range) : Option Nat :=
  [64, 4096, 262144].findSome? r.blockCut?

/-- The two pieces into which to cut a range that needs a cut. -/
def pieces? (r : Range) : Option (Range × Range) :=
  if r.first < 0xE000 ∧ 0xD7FF < r.last then some (⟨r.first, 0xD7FF⟩, ⟨0xE000, r.last⟩)
  else
    let cut? :=
      match r.lengthCut? with
      | some m => some m
      | none => if r.last < 128 then none else r.anyBlockCut?
    cut?.map fun m => (⟨r.first, m⟩, ⟨m + 1, r.last⟩)

/-- The byte ranges between the bytes of the first and the last character. -/
def byteRanges (r : Range) : List Range :=
  List.zipWith Range.mk (encodedChar (Char.ofNat r.first)) (encodedChar (Char.ofNat r.last))

/-- The byte sequences of a range, which is cut at most `n` times in a row. -/
def sequencesIn : Nat → Range → List (List Range)
  | 0, _ => []
  | n + 1, r =>
    match r.pieces? with
    | some (left, right) => sequencesIn n left ++ sequencesIn n right
    | none => if r.first ≤ r.last then [r.byteRanges] else []

/-- How often a range is cut in a row at most: once at the code points that are no characters, three
times by length, and twice for each size of blocks. -/
def cutBound : Nat := 10

end Range

end ParLang.Text

namespace ParLang.CharSet

/-- The byte sequences of a set. -/
def sequences (s : CharSet) : List (List Text.Range) :=
  s.ranges.flatMap (Text.Range.sequencesIn (Text.Range.cutBound + 1))

end ParLang.CharSet
