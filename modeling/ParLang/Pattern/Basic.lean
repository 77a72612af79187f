import ParLang.Text.CaseFold
import ParLang.Text.Property

/-!
# Patterns

A pattern describes pieces of text. It is made of literals, sets of characters and assertions about a
place, by concatenation, ordered choice and repetition. Where several pieces match at one place, the
earlier choice is preferred, and a greedy repetition prefers to go on.

Patterns are put together by `ofSet`, `join`, `either`, `times`, which bring them into a simple form:
chains of concatenations and of choices lean to the right and hold no empty or nested parts, literals
next to each other are one, choices between characters are a set, and what all branches start with
stands in front of them.
-/

namespace ParLang

/-- A property of a place that depends on whether its neighbours belong to a word. -/
inductive WordEdge where
  | boundary | noBoundary
  | start | stop
  | startHalf | stopHalf
deriving DecidableEq, Inhabited

namespace WordEdge

/-- The edge lies between two places of which the left and the right one belong to a word or not. -/
def holds (e : WordEdge) (left right : Bool) : Bool :=
  match e with
  | .boundary => left != right
  | .noBoundary => left == right
  | .start => !left && right
  | .stop => left && !right
  | .startHalf => !left
  | .stopHalf => !right

end WordEdge

/-- A property of a place in a text. -/
inductive Assertion where
  | textStart | textEnd
  | lineStart | lineEnd
  /-- Lines that end with a line feed, a carriage return or both. -/
  | anyLineStart | anyLineEnd
  /-- An edge of words, which are made of ASCII characters only if `ascii` says so. -/
  | word (e : WordEdge) (ascii : Bool)
deriving DecidableEq, Inhabited

namespace Assertion

/-- The neighbour is there and belongs to a word. -/
def isWordAt (ascii : Bool) : Option Char → Bool
  | some c => if ascii then c.isAlphanum || c == '_' else Text.isWord c
  | none => false

/-- The assertion holds between the character `before` and the character `after`. -/
def holds (a : Assertion) (before after : Option Char) : Bool :=
  match a with
  | .textStart => before.isNone
  | .textEnd => after.isNone
  | .lineStart => before.isNone || before == some '\n'
  | .lineEnd => after.isNone || after == some '\n'
  | .anyLineStart =>
    before.isNone || before == some '\n' || (before == some '\r' && after != some '\n')
  | .anyLineEnd =>
    after.isNone || after == some '\r' || (after == some '\n' && before != some '\r')
  | .word e ascii => e.holds (isWordAt ascii before) (isWordAt ascii after)

end Assertion

/-- A pattern. -/
inductive Pattern where
  | empty
  /-- The characters one after another. -/
  | literal (cs : List Char)
  | set (s : CharSet)
  | assert (a : Assertion)
  | append (p q : Pattern)
  /-- Either pattern; the first is preferred. -/
  | choice (p q : Pattern)
  /-- From `least` up to `most?` times the pattern, without an upper bound if that is `none`. -/
  | repeated (p : Pattern) (least : Nat) (most? : Option Nat) (greedy : Bool)
  /-- The group with the given number. -/
  | group (number : Nat) (p : Pattern)
deriving DecidableEq, Inhabited

namespace Pattern

/-! ## What a pattern can match -/

/-- No text shorter than this many characters can match. A pattern with a part that never matches has
no such number. -/
def minLength? : Pattern → Option Nat
  | .empty => some 0
  | .literal cs => some cs.length
  | .set s => if s.isEmpty then none else some 1
  | .assert _ => some 0
  | .append p q =>
    match p.minLength?, q.minLength? with
    | some m, some n => some (m + n)
    | _, _ => none
  | .choice p q =>
    match p.minLength?, q.minLength? with
    | some m, some n => some (min m n)
    | _, _ => none
  | .repeated p least _ _ => p.minLength?.map (least * ·)
  | .group _ p => p.minLength?

/-- No text longer than this many characters can match. A pattern without such a bound, or with a part
that never matches, has no such number. -/
def maxLength? : Pattern → Option Nat
  | .empty => some 0
  | .literal cs => some cs.length
  | .set s => if s.isEmpty then none else some 1
  | .assert _ => some 0
  | .append p q =>
    match p.maxLength?, q.maxLength? with
    | some m, some n => some (m + n)
    | _, _ => none
  | .choice p q =>
    match p.maxLength?, q.maxLength? with
    | some m, some n => some (max m n)
    | _, _ => none
  | .repeated p _ most? _ =>
    match p.maxLength?, most? with
    | some m, some most => some (m * most)
    | _, _ => none
  | .group _ p => p.maxLength?

/-- Every match takes up at least one character. -/
def takesSome (p : Pattern) : Bool :=
  match p.minLength? with
  | some n => n != 0
  | none => false

/-- Every match takes up nothing. -/
def takesNothing (p : Pattern) : Bool :=
  p.maxLength? == some 0

/-- Every match starts at the start of the text. -/
def startsText : Pattern → Bool
  | .assert a => a == .textStart
  | .append p q => p.startsText || (p.takesNothing && q.startsText)
  | .choice p q => p.startsText && q.startsText
  | .repeated p least _ _ => least != 0 && p.startsText
  | .group _ p => p.startsText
  | _ => false

/-- Every match ends at the end of the text. -/
def endsText : Pattern → Bool
  | .assert a => a == .textEnd
  | .append p q => q.endsText || (q.takesNothing && p.endsText)
  | .choice p q => p.endsText && q.endsText
  | .repeated p least _ _ => least != 0 && p.endsText
  | .group _ p => p.endsText
  | _ => false

/-! ## Putting patterns together -/

/-- The pattern that never matches. -/
def fail : Pattern :=
  .set .none

/-- A character of a set. -/
def ofSet (s : CharSet) : Pattern :=
  match s.only? with
  | some c => .literal [c]
  | none => .set s

/-- The parts of a concatenation. -/
def parts : Pattern → List Pattern
  | .empty => []
  | .append p q => p :: q.parts
  | p => [p]

/-- The parts with neighbouring literals put together. -/
def mergeLiterals : List Pattern → List Pattern
  | [] => []
  | .literal cs :: rest =>
    match mergeLiterals rest with
    | .literal ds :: others => .literal (cs ++ ds) :: others
    | others => .literal cs :: others
  | p :: rest => p :: mergeLiterals rest

/-- The concatenation of parts in simple form. -/
def ofParts : List Pattern → Pattern
  | [] => .empty
  | [p] => p
  | p :: rest => .append p (ofParts rest)

/-- One pattern after the other. -/
def join (ps : List Pattern) : Pattern :=
  ofParts (mergeLiterals (ps.flatMap parts))

/-- The branches of a choice. -/
def branches : Pattern → List Pattern
  | .choice p q => p :: q.branches
  | p => [p]

/-- The choice between branches in simple form. -/
def ofBranches : List Pattern → Pattern
  | [] => fail
  | [p] => p
  | p :: rest => .choice p (ofBranches rest)

/-- The one character of a literal. -/
def char? : Pattern → Option Char
  | .literal [c] => some c
  | _ => none

/-- The set of a pattern that is one. -/
def set? : Pattern → Option CharSet
  | .set s => some s
  | _ => none

/-- The set that the branches make up if all are characters or all are sets. -/
def mergedSet? (bs : List Pattern) : Option CharSet :=
  match bs.mapM char? with
  | some cs => some (.unions (cs.map .single))
  | none => (bs.mapM set?).map .unions

/-- The choice between branches, as a set if they make up one. -/
def ofMerged (bs : List Pattern) : Pattern :=
  match bs with
  | [p] => p
  | _ =>
    match mergedSet? bs with
    | some s => ofSet s
    | none => ofBranches bs

/-- What two lists start with. -/
def commonStart : List Pattern → List Pattern → List Pattern
  | p :: ps, q :: qs => if p = q then p :: commonStart ps qs else []
  | _, _ => []

/-- The parts of a branch that has at least two. -/
def severalParts? (p : Pattern) : Option (List Pattern) :=
  match p with
  | .append _ _ => some p.parts
  | _ => none

/-- One of several branches. Parts that all branches start with stand once in front of the choice. -/
def either (ps : List Pattern) : Pattern :=
  let bs := ps.flatMap branches
  match bs, mergedSet? bs, bs.mapM severalParts? with
  | [p], _, _ => p
  | _, none, some (first :: others) =>
    match others.foldl commonStart first with
    | [] => ofBranches bs
    | start =>
      let rests := (first :: others).map fun parts => ofParts (parts.drop start.length)
      join (start ++ [ofMerged (rests.flatMap branches)])
  | _, _, _ => ofMerged bs

/-- From `least` up to `most?` times the pattern. A pattern that takes up nothing is tried at most
once. -/
def times (p : Pattern) (least : Nat) (most? : Option Nat) (greedy : Bool) : Pattern :=
  let least := if p.takesNothing then min least 1 else least
  let most? := if p.takesNothing then some (min (most?.getD 1) 1) else most?
  if most? = some 0 then .empty
  else if least = 1 ∧ most? = some 1 then p
  else .repeated p least most? greedy

end Pattern

end ParLang
