import ParLang.Pattern.Basic
import ParLang.Pattern.Split

/-!
# Matching

A pattern becomes an automaton of numbered nodes with ordered choices. A search follows all paths from
all places at once, in the order of preference: paths from an earlier place come first, and of two paths
from one place the one that takes the earlier choice. `reach` lists the nodes that wait for a character,
without repeating one, and a path that accepts cuts off the less preferred ones behind it. The match is
therefore the one that trying place after place and choice after choice would find first.
-/

namespace ParLang

/-- A node of an automaton. -/
inductive Node where
  | take (s : CharSet) (next : Nat)
  | assert (a : Assertion) (next : Nat)
  /-- Goes on at each of the nodes; an earlier one is preferred. -/
  | split (options : List Nat)
  | accept
deriving Inhabited

/-- How many nodes come next. -/
def Node.fanOut : Node → Nat
  | .take _ _ | .assert _ _ => 1
  | .split options => options.length
  | .accept => 0

/-- Nodes and the one to start from. -/
structure Automaton where
  nodes : Array Node
  start : Nat
  /-- How many ways lead from a node to another. -/
  ways : Nat

namespace Automaton

/-- Adds nodes to those that are there. -/
abbrev Build (α : Type) := StateM (Array Node) α

/-- Adds a node and gives its number. -/
def add (node : Node) : Build Nat := fun nodes => (nodes.size, nodes.push node)

/-- Replaces the node with the given number. -/
def put (i : Nat) (node : Node) : Build Unit := fun nodes => ((), nodes.setIfInBounds i node)

/-- Two ways to go on, the first for one more round of a repetition. -/
def rounds (greedy : Bool) (again next : Nat) : Node :=
  .split (if greedy then [again, next] else [next, again])

/-- Builds the same part `n` times, one in front of the other, the last one in front of `next`. -/
def times (part : Nat → Build Nat) : Nat → Nat → Build Nat
  | 0, next => pure next
  | n + 1, next => do
    let front ← part next
    times part n front

/-- Builds a part up to `n` times in front of `behind`, each but the first only behind another, and each
leading to `next` instead. -/
def optional (greedy : Bool) (part : Nat → Build Nat) (next : Nat) : Nat → Nat → Build Nat
  | 0, behind => pure behind
  | n + 1, behind => do
    let again ← part behind
    let front ← add (rounds greedy again next)
    optional greedy part next n front

/-- Builds characters one after another. -/
def characters (next : Nat) : List Char → Build Nat
  | [] => pure next
  | c :: rest => do
    let behind ← characters next rest
    add (.take (.single c) behind)

/-- Builds a part any number of times but at least once. -/
def onceOrMore (greedy : Bool) (part : Nat → Build Nat) (next : Nat) : Build Nat := do
  let loop ← add .accept
  let again ← part loop
  put loop (rounds greedy again next)
  return again

/-- Builds a part any number of times. A part that can be empty is built as an optional run of at
least one, so that the choice to stop is taken where it belongs. -/
def anyTimes (greedy canBeEmpty : Bool) (part : Nat → Build Nat) (next : Nat) : Build Nat := do
  if canBeEmpty then
    let again ← onceOrMore greedy part next
    add (rounds greedy again next)
  else
    let loop ← add .accept
    let again ← part loop
    put loop (rounds greedy again next)
    return loop

/-- Builds the nodes for a pattern that go on at `next`, and gives the number of the first. -/
def build : Pattern → Nat → Build Nat
  | .empty, next => pure next
  | .literal cs, next => characters next cs
  | .set s, next => add (.take s next)
  | .assert a, next => add (.assert a next)
  | .append p q, next => do
    let behind ← build q next
    build p behind
  | .choice p q, next => do
    let first ← build p next
    let second ← build q next
    add (.split [first, second])
  | .repeated p least most? greedy, next =>
    match most?, least with
    | none, 0 => anyTimes greedy (!p.takesSome) (build p) next
    | none, n + 1 => do
      let last ← onceOrMore greedy (build p) next
      times (build p) n last
    | some most, least => do
      let behind ← optional greedy (build p) next (most - least) next
      times (build p) least behind
  | .group _ p, next => build p next

/-- The automaton of a pattern. -/
def ofPattern (p : Pattern) : Automaton :=
  let (start, nodes) := (do build p (← add .accept) : Build Nat) #[]
  ⟨nodes, start, nodes.foldl (fun n node => n + node.fanOut) 0⟩

end Automaton

/-- A path that has come to a node, from the place with the number `start`. -/
structure Path where
  node : Nat
  start : Nat

namespace Automaton

/-- The paths that wait for a character or accept, reached from the pending ones between the two
characters, in order of preference. A node counts once: `seen` holds for each node the number of the last
round that came to it, and this is round `round`. Each node and each way is looked at once, which bounds
the steps by the pending paths and the ways. -/
def reach (a : Automaton) (before after : Option Char) (round : Nat) :
    Nat → List Path → Array Nat → Array Path → Array Path × Array Nat
  | 0, _, seen, found => (found, seen)
  | _ + 1, [], seen, found => (found, seen)
  | n + 1, p :: pending, seen, found =>
    if seen.getD p.node round = round then reach a before after round n pending seen found
    else
      let seen := seen.setIfInBounds p.node round
      match a.nodes[p.node]? with
      | some (.split options) =>
        reach a before after round n (options.map (⟨·, p.start⟩) ++ pending) seen found
      | some (.assert assertion next) =>
        if assertion.holds before after then
          reach a before after round n (⟨next, p.start⟩ :: pending) seen found
        else reach a before after round n pending seen found
      | some _ => reach a before after round n pending seen (found.push p)
      | none => reach a before after round n pending seen found

/-- The paths behind the character `c?`, and the start of the first path that accepts, which cuts off
those after it. -/
def cut (a : Automaton) (c? : Option Char) : List Path → Option Nat × List Path
  | [] => (none, [])
  | p :: rest =>
    match a.nodes[p.node]? with
    | some .accept => (some p.start, [])
    | some (.take s next) =>
      let (accepted?, others) := cut a c? rest
      if c?.any fun c => s.contains c.toNat then (accepted?, ⟨next, p.start⟩ :: others)
      else (accepted?, others)
    | _ => cut a c? rest

/-- One round of a search at a place: the preferred match that ends there, and the paths behind the
character to come. A new path starts here unless a match is known. -/
def advance (a : Automaton) (before after : Option Char) (position : Nat) (known : Bool)
    (pending : List Path) (seen : Array Nat) : Option Match × List Path × Array Nat :=
  let pending := if known then pending else pending ++ [⟨a.start, position⟩]
  let (waiting, seen) :=
    a.reach before after (position + 1) (a.ways + pending.length + 1) pending seen #[]
  let (accepted?, behind) := a.cut after waiting.toList
  (accepted?.map (⟨·, position⟩), behind, seen)

/-- Searches on from a place: `position` characters are behind it, the last of them `before`, and the
rest is to come. The result is the preferred match, which is `best?` unless a pending path leads to
another one. -/
def search (a : Automaton) (before : Option Char) (position : Nat) (best? : Option Match)
    (pending : List Path) (seen : Array Nat) : List Char → Option Match
  | [] =>
    let (found?, _, _) := a.advance before none position best?.isSome pending seen
    found?.or best?
  | c :: rest =>
    let (found?, pending, seen) := a.advance before (some c) position best?.isSome pending seen
    let best? := found?.or best?
    if pending.isEmpty && best?.isSome then best?
    else search a (some c) (position + 1) best? pending seen rest

end Automaton

/-- A place in a text: the character before it, how many there are before it, and those to come. -/
structure Place where
  before : Option Char
  position : Nat
  rest : List Char

namespace Place

/-- The start of a text. -/
def ofList (cs : List Char) : Place :=
  ⟨none, 0, cs⟩

/-- The place one character on. -/
def next (p : Place) : Place :=
  match p.rest with
  | [] => p
  | c :: rest => ⟨some c, p.position + 1, rest⟩

/-- The place `n` characters on. -/
def forward (p : Place) : Nat → Place
  | 0 => p
  | n + 1 => p.next.forward n

end Place

namespace Automaton

/-- The first match at or behind a place. -/
def firstMatch? (a : Automaton) (p : Place) : Option Match :=
  a.search p.before p.position none [] (Array.replicate a.nodes.size 0) p.rest

/-- The matches from a place on, one behind the other. An empty match where the last one ended does
not count: the search goes on one character further. -/
def matchesFrom (a : Automaton) : Nat → Place → Option Nat → List Match
  | 0, _, _ => []
  | n + 1, p, last? =>
    match a.firstMatch? p with
    | none => []
    | some m =>
      if m.start = m.stop ∧ last? = some m.stop then
        if p.rest.isEmpty then []
        else
          match a.firstMatch? p.next with
          | none => []
          | some m => m :: matchesFrom a n (p.forward (m.stop - p.position)) (some m.stop)
      else m :: matchesFrom a n (p.forward (m.stop - p.position)) (some m.stop)

end Automaton

/-- All matches of a pattern in a text, from left to right. No two matches end at one place, so there
is at most one more than there are characters. -/
def Pattern.matches (p : Pattern) (text : List Char) : List Match :=
  (Automaton.ofPattern p).matchesFrom (text.length + 2) (.ofList text) none

end ParLang
