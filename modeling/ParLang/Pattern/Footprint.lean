import Std.Data.HashMap
import ParLang.Pattern.Basic
import ParLang.Text.Encoded

/-!
# The size of a pattern

A pattern may be no larger than a limit, which is set on the size of two automata that read bytes: one
that reads the text forward, and one that reads it backward. The nodes of these automata are counted
here and not built. A node takes 32 bytes, each range of bytes that a node tells apart takes 8, and each
way that a choice between ways has takes 4.

The nodes of a set of characters depend on how its byte sequences share nodes. Forward, two nodes that
go on alike are one, backward, two sequences that start alike share the start, as long as a table of
limited size remembers the first of them: the numbers of nodes decide the place in the table, and a node
that falls on the place of another replaces it.
-/

namespace ParLang

/-- How many nodes there are, and how many bytes they take. -/
structure Tally where
  nodes : Nat
  bytes : Nat

namespace Tally

/-- How many bytes an automaton may take. -/
def limit : Nat := 10485760

/-- The tally, if it is within the limit. -/
def check {α : Type} (result : α) (t : Tally) : Option (α × Tally) :=
  if t.bytes ≤ limit then some (result, t) else none

end Tally

/-- Counts nodes up to the limit. -/
abbrev Meter (α : Type) := StateT Tally Option α

namespace Meter

/-- Adds a node that tells apart the given number of byte ranges, and gives its number. -/
def node (ranges : Nat) : Meter Nat := fun t =>
  Tally.check t.nodes ⟨t.nodes + 1, t.bytes + 32 + 8 * ranges⟩

/-- Adds nodes of which each stands for one byte. -/
def chain (length : Nat) : Meter Unit := fun t =>
  Tally.check () ⟨t.nodes + length, t.bytes + 32 * length⟩

/-- Adds ways to nodes that are choices. -/
def ways (n : Nat) : Meter Unit := fun t =>
  Tally.check () ⟨t.nodes, t.bytes + 4 * n⟩

end Meter

/-! ## Sets of characters -/

/-- A table of nodes by what they do. Each key has one place, and the last key that was put there is the
one that is known. -/
structure NodeTable where
  size : Nat
  places : Std.HashMap Nat (List Nat × Nat)

namespace NodeTable

/-- A table with the given number of places. -/
def new (size : Nat) : NodeTable :=
  ⟨size, ∅⟩

/-- The place of a key: its numbers one after another are mixed into a word by exclusive or and
multiplication. -/
def place (t : NodeTable) (key : List Nat) : Nat :=
  let word := key.foldl (fun (h : UInt64) n => (h ^^^ UInt64.ofNat n) * 1099511628211)
    14695981039346656037
  word.toNat % t.size

/-- The node that is known for a key. -/
def find? (t : NodeTable) (key : List Nat) : Option Nat :=
  match t.places[t.place key]? with
  | some (known, node) => if known = key then some node else none
  | none => none

/-- Remembers the node of a key. -/
def insert (t : NodeTable) (key : List Nat) (node : Nat) : NodeTable :=
  { t with places := t.places.insert (t.place key) (key, node) }

end NodeTable

/-- Counts nodes that are shared by means of a table. -/
abbrev SharingMeter (α : Type) := StateT NodeTable (StateT Tally Option) α

namespace SharingMeter

/-- The node for a key: the one that is known, or a new one that tells apart the given number of byte
ranges. -/
def share (key : List Nat) (ranges : Nat) : SharingMeter Nat := do
  match (← get).find? key with
  | some node => return node
  | none =>
    let node ← (Meter.node ranges : StateT Tally Option Nat)
    modify (·.insert key node)
    return node

/-- Sequences that are not empty by their first byte range, where neighbours with the same first range
go together. -/
def byFirst : List (List Text.Range) → List (Text.Range × List (List Text.Range))
  | [] => []
  | [] :: rest => byFirst rest
  | (r :: tail) :: rest =>
    match byFirst rest with
    | (s, tails) :: others =>
      if r = s then (r, tail :: tails) :: others else (r, [tail]) :: (s, tails) :: others
    | [] => [(r, [tail])]

/-- The node from which the sequences, none longer than the first argument, lead to the node `target`.
Two nodes with the same byte ranges that lead to the same nodes are one. -/
def forward (target : Nat) : Nat → List (List Text.Range) → SharingMeter Nat
  | 0, _ => return target
  | n + 1, sequences => do
    let arcs ← (byFirst sequences).mapM fun (r, tails) => do
      let next ← if tails.all List.isEmpty then pure target else forward target n tails
      return [r.first, r.last, next]
    share arcs.flatten arcs.length

/-- The last of the nodes that lead from the byte ranges of a sequence, read from its end, to the node
`target`. -/
def backward (target : Nat) (sequence : List Text.Range) : SharingMeter Nat :=
  sequence.foldlM (fun next r => share [next, r.first, r.last] 0) target

end SharingMeter

namespace Meter

/-- Adds the nodes of a set that leads to one node behind it. -/
def set (back : Bool) (s : CharSet) : Meter Unit := do
  if s.isAscii then
    let _ ← node 0
    let _ ← node s.ranges.length
  else if back then
    let _ ← node 0
    let target ← node 0
    let sequences := s.sequences
    let _ ← (sequences.mapM (SharingMeter.backward target)).run (.new 1000)
    ways sequences.length
  else
    let target ← node 0
    let _ ← (SharingMeter.forward target 4 s.sequences).run (.new 10000)

/-! ## Choices between literals -/

/-- The literals from a node on, in pieces: a literal that ends at the node separates those before it
from those after it. The last piece and the last literal of a piece come first. -/
def addLiteral (pieces : List (List (List Nat))) (word : List Nat) : List (List (List Nat)) :=
  match word, pieces with
  | [], _ =>
    if 1 < pieces.length && pieces.all List.isEmpty then pieces else [] :: pieces
  | _, current :: before => (word :: current) :: before
  | _, [] => [[word]]

/-- Puts a word under its first byte, behind the words that are there. -/
def addTail (byte : Nat) (tail : List Nat) :
    List (Nat × List (List Nat)) → List (Nat × List (List Nat))
  | [] => [(byte, [tail])]
  | (b, tails) :: rest =>
    if b = byte then (b, tails ++ [tail]) :: rest else (b, tails) :: addTail byte tail rest

/-- Words that are not empty by their first byte. -/
def byByte (words : List (List Nat)) : List (Nat × List (List Nat)) :=
  words.foldl (fun groups word =>
    match word with
    | [] => groups
    | byte :: tail => addTail byte tail groups) []

/-- Adds the nodes of a tree of literals, none of them longer than the first argument. A node of the
tree is a choice between its pieces and, between two pieces, the end; each piece is one node. -/
def tree : Nat → List (List Nat) → Meter Unit
  | 0, _ => return ()
  | n + 1, words => do
    let pieces := (words.foldl addLiteral [[]]).map List.reverse
    for piece in pieces do
      let groups := byByte piece
      for (_, tails) in groups do
        unless tails.all List.isEmpty do tree n tails
      unless groups.isEmpty do
        let _ ← node (if groups.length = 1 then 0 else groups.length)
    let _ ← node 0
    ways (pieces.countP (!·.isEmpty) + (pieces.length - 1))

/-- The literals of a choice that has no other branches. -/
def literals? : Pattern → Option (List (List Char))
  | .literal cs => some [cs]
  | .choice (.literal cs) q => (literals? q).map (cs :: ·)
  | _ => none

/-- Adds the nodes of a choice between literals. -/
def literals (back : Bool) (words : List (List Char)) : Meter Unit := do
  let encoded := words.map fun cs =>
    if back then (Text.encodedChars cs).reverse else Text.encodedChars cs
  let _ ← node 0
  tree ((encoded.map List.length).foldl max 0 + 1) encoded

/-! ## Patterns

The nodes of a part end with one node, from which a way leads on. The result of counting a part tells
whether that node is a choice, to which the way on has to be added. -/

/-- Adds `n` more copies of a part behind one. -/
def again (part : Meter Bool) : Nat → Bool → Meter Bool
  | 0, last => return last
  | n + 1, last => do
    let next ← part
    ways last.toNat
    again part n next

/-- Adds `n` copies of a part, one behind the other. -/
def copies (part : Meter Bool) : Nat → Meter Bool
  | 0 => do
    let _ ← node 0
    return false
  | n + 1 => do again part n (← part)

/-- Adds up to `n` copies of a part, each but the first only behind another. -/
def optional (part : Meter Bool) : Nat → Bool → Meter Bool
  | 0, last => return last
  | n + 1, last => do
    let _ ← node 0
    let next ← part
    ways (2 + last.toNat)
    optional part n next

/-- Adds a repeated part. A part that always takes up something is left and entered by one choice;
otherwise the choice to enter it is another than the choice to repeat it. -/
def repeated (part : Meter Bool) (takesSome : Bool) : Nat → Option Nat → Meter Bool
  | 0, some 1 => do
    let _ ← node 0
    let last ← part
    let _ ← node 0
    ways (2 + last.toNat)
    return false
  | 0, none => do
    if takesSome then
      let _ ← node 0
      let last ← part
      ways (1 + last.toNat)
      return true
    else
      let last ← part
      chain 3
      ways (4 + last.toNat)
      return false
  | 1, none => do
    let last ← part
    let _ ← node 0
    ways (1 + last.toNat)
    return true
  | n + 2, none => do
    let before ← copies part (n + 1)
    let last ← part
    let _ ← node 0
    ways (1 + before.toNat + last.toNat)
    return true
  | least, some most => do
    let last ← copies part least
    if least = most then return last
    let _ ← node 0
    let last ← optional part (most - least) last
    ways last.toNat
    return false

/-- Adds what a branch of a choice needs besides its own nodes, where `k` counts the branches from 1 on:
a way to it, and with the second one the choice and its end. A part that is no branch has the number
0. -/
def settle (k : Nat) (last : Bool) : Meter Bool := do
  if k = 0 then return last
  ways (1 + last.toNat)
  if k = 2 then chain 2
  return false

/-- Adds the nodes of a pattern, which is the last branch of a choice if `k` is not 0. -/
def pattern (back : Bool) : Pattern → Nat → Meter Bool
  | .empty, k => do
    let _ ← node 0
    settle k false
  | .literal cs, k => do
    chain (Text.encodedChars cs).length
    settle k false
  | .set s, k => do
    set back s
    settle k false
  | .assert _, k => do
    let _ ← node 0
    settle k false
  | .append p q, k => do
    let first ← if back then pattern back q 0 else pattern back p 0
    let last ← if back then pattern back p 0 else pattern back q 0
    ways first.toNat
    settle k last
  | .choice p q, 0 => do
    match literals? (.choice p q) with
    | some words =>
      literals back words
      return false
    | none =>
      let _ ← settle 1 (← pattern back p 0)
      pattern back q 2
  | .choice p q, k + 1 => do
    let _ ← settle (k + 1) (← pattern back p 0)
    pattern back q (k + 2)
  | .repeated p least most? _, k => do
    settle k (← repeated (pattern back p 0) p.takesSome least most?)
  | .group _ p, k => do
    if back then settle k (← pattern back p 0)
    else
      let _ ← node 0
      let last ← pattern back p 0
      let _ ← node 0
      ways last.toNat
      settle k false

/-- Adds the nodes of the automaton of a pattern. It first passes over any bytes, unless every match
lies at the end from which it reads. -/
def automaton (back : Bool) (p : Pattern) : Meter Unit := do
  if (if back then p.endsText else p.startsText) then
    let _ ← node 0
  else
    chain 2
    let _ ← node 1
    ways 2
  let last ← pattern back (.group 0 p) 0
  chain 1
  ways last.toNat

end Meter

/-- The automaton that reads in the given direction is within the limit. -/
def Pattern.fitsReading (p : Pattern) (back : Bool) : Bool :=
  (Meter.automaton back p ⟨0, 0⟩).isSome

/-- The pattern is within the limit. -/
def Pattern.isWithinLimit (p : Pattern) : Bool :=
  p.fitsReading false && p.fitsReading true

end ParLang
