/-!
# Splitting a text

A text is cut at matches, however they were found. A match that ends at the start of the text does not
cut, trailing empty pieces are dropped, and a text without a cut comes back whole.
-/

namespace ParLang

/-- The characters from `start` up to, not including, `stop` of a text. -/
structure Match where
  start : Nat
  stop : Nat
deriving DecidableEq, Inhabited

/-- How the matches of a pattern in a text are found, if the pattern is one. -/
abbrev Matcher := (pattern text : String) → Option (List Match)

/-- The pieces of a text between cuts, where the first of its characters has the number `last`. -/
def piecesFrom (last : Nat) (text : List Char) : List Match → List (List Char)
  | [] => [text]
  | m :: rest =>
    text.take (m.start - last) :: piecesFrom m.stop (text.drop (m.stop - last)) rest

/-- The list without its trailing empty pieces. -/
def dropEmptyTail (pieces : List (List Char)) : List (List Char) :=
  (pieces.reverse.dropWhile List.isEmpty).reverse

/-- The pieces of a text cut at matches. -/
def splitAt (text : List Char) (cuts : List Match) : List (List Char) :=
  match cuts.filter (·.stop != 0) with
  | [] => [text]
  | counted => dropEmptyTail (piecesFrom 0 text counted)

end ParLang
