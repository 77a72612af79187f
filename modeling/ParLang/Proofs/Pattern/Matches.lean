import Mathlib.Data.List.Basic
import ParLang.Pattern.Engine

/-!
# The order of matches

`InOrder` says that matches follow one another without overlap and stay in the text. A search keeps for
each path where it started, and no path starts in front of the place where the search did, so the match
that is found lies between that place and the end. The next search starts where it ends.

So the matcher that programs run with finds matches in order (`Pattern.matcher_inOrder`), and for the empty
pattern it finds one at every place (`Pattern.matcher_empty`).
-/

namespace ParLang

/-- The matches follow one another from the place `first` on and stay in a text of this length. -/
inductive InOrder (length : Nat) : Nat → List Match → Prop
  | nil {first : Nat} (hfirst : first ≤ length) : InOrder length first []
  | cons {first : Nat} {m : Match} {rest : List Match} (hstart : first ≤ m.start) (hstop : m.start ≤ m.stop)
    (hrest : InOrder length m.stop rest) : InOrder length first (m :: rest)

/-- Matches that are in order from a place on are so from an earlier place on. -/
theorem InOrder.anti {length first a : Nat} {cuts : List Match} (h : InOrder length first cuts)
    (hle : a ≤ first) : InOrder length a cuts := by
  cases h with
  | nil hfirst => exact .nil (Nat.le_trans hle hfirst)
  | cons hstart hstop hrest => exact .cons (Nat.le_trans hle hstart) hstop hrest

namespace Automaton

variable {automaton : Automaton} {before after : Option Char} {P : Nat → Prop} {known : Bool}
  {pending : List Path} {seen : Array Nat} {first position : Nat} {best? : Option Match} {m : Match}

/-! ## One round -/

/-- A path that is reached started where a pending one did. -/
theorem reach_start {round fuel : Nat} {found : Array Path} (hpending : ∀ p ∈ pending, P p.start)
    (hfound : ∀ p ∈ found.toList, P p.start) :
    ∀ p ∈ (automaton.reach before after round fuel pending seen found).1.toList, P p.start := by
  fun_induction automaton.reach before after round fuel pending seen found with
  | case1 | case2 => exact hfound
  | case3 _ _ _ _ _ _ ih | case6 _ _ _ _ _ _ _ _ _ _ _ ih | case8 _ _ _ _ _ _ _ _ ih =>
    exact ih (List.forall_mem_cons.mp hpending).2 hfound
  | case4 _ p _ _ _ _ _ options _ ih =>
    obtain ⟨hp, hpending⟩ := List.forall_mem_cons.mp hpending
    refine ih (List.forall_mem_append.mpr ⟨fun q hq => ?_, hpending⟩) hfound
    obtain ⟨_, _, rfl⟩ := List.mem_map.mp hq
    exact hp
  | case5 _ _ _ _ _ _ _ _ _ _ _ ih =>
    obtain ⟨hp, hpending⟩ := List.forall_mem_cons.mp hpending
    exact ih (List.forall_mem_cons.mpr ⟨hp, hpending⟩) hfound
  | case7 _ _ _ _ _ _ _ _ _ _ _ ih =>
    obtain ⟨hp, hpending⟩ := List.forall_mem_cons.mp hpending
    refine ih hpending ?_
    rw [Array.toList_push]
    exact List.forall_mem_append.mpr ⟨hfound, List.forall_mem_singleton.mpr hp⟩

/-- So did the path that accepts, and those behind the next character. -/
theorem cut_start {c? : Option Char} {waiting : List Path} (h : ∀ p ∈ waiting, P p.start) :
    (∀ start ∈ (automaton.cut c? waiting).1, P start) ∧ ∀ p ∈ (automaton.cut c? waiting).2, P p.start := by
  fun_induction automaton.cut c? waiting with
  | case1 => exact ⟨nofun, nofun⟩
  | case2 =>
    refine ⟨?_, nofun⟩
    rintro _ ⟨⟩
    exact h _ List.mem_cons_self
  | case3 _ _ _ _ _ _ _ hcut _ ih =>
    obtain ⟨hp, hrest⟩ := List.forall_mem_cons.mp h
    rw [hcut] at ih
    exact ⟨(ih hrest).1, List.forall_mem_cons.mpr ⟨hp, (ih hrest).2⟩⟩
  | case4 _ _ _ _ _ _ _ hcut _ ih => exact hcut ▸ ih (List.forall_mem_cons.mp h).2
  | case5 _ _ _ _ ih => exact ih (List.forall_mem_cons.mp h).2

/-- A match that is found in a round ends there. It started where a pending path did, or there too. -/
theorem advance_start (hpending : ∀ p ∈ pending, P p.start) (hposition : P position) :
    (∀ m ∈ (automaton.advance before after position known pending seen).1, P m.start ∧ m.stop = position) ∧
      ∀ p ∈ (automaton.advance before after position known pending seen).2.1, P p.start := by
  have hall : ∀ p ∈ if known then pending else pending ++ [⟨automaton.start, position⟩], P p.start := by
    split
    · exact hpending
    · exact List.forall_mem_append.mpr ⟨hpending, List.forall_mem_singleton.mpr hposition⟩
  constructor
  · intro m hm
    obtain ⟨start, hstart, rfl⟩ := Option.map_eq_some_iff.mp hm
    exact ⟨(cut_start (reach_start hall (by simp))).1 start hstart, rfl⟩
  · exact (cut_start (reach_start hall (by simp))).2

/-! ## A search -/

/-- The match lies between the place `first` and the end of a text of this length. -/
def Found (first length : Nat) (m : Match) : Prop :=
  first ≤ m.start ∧ m.start ≤ m.stop ∧ m.stop ≤ length

/-- The invariant of a search at a place: pending paths started in front of it, but not in front of
`first`, and so did the match that is known. -/
structure Searching (first position : Nat) (best? : Option Match) (pending : List Path) : Prop where
  le : first ≤ position
  pending : ∀ p ∈ pending, first ≤ p.start ∧ p.start ≤ position
  best : ∀ m ∈ best?, Found first position m

/-- The invariant holds behind one round, and a match that is found lies where the search may look. -/
theorem Searching.advance (h : Searching first position best? pending) (automaton : Automaton)
    (before after : Option Char) (known : Bool) (seen : Array Nat) :
    (∀ m ∈ (automaton.advance before after position known pending seen).1.or best?, Found first position m) ∧
      ∀ p ∈ (automaton.advance before after position known pending seen).2.1,
        first ≤ p.start ∧ p.start ≤ position := by
  have hadvance : (∀ m ∈ (automaton.advance before after position known pending seen).1,
      (first ≤ m.start ∧ m.start ≤ position) ∧ m.stop = position) ∧ _ :=
    advance_start (P := fun start => first ≤ start ∧ start ≤ position) h.pending
      ⟨h.le, Nat.le_refl position⟩
  refine ⟨fun m hm => ?_, hadvance.2⟩
  rcases Option.or_eq_some_iff.mp hm with hm | ⟨-, hm⟩
  · obtain ⟨⟨hfirst, hle⟩, rfl⟩ := hadvance.1 m hm
    exact ⟨hfirst, hle, Nat.le_refl _⟩
  · exact h.best m hm

/-- By induction along the rest of the text, what a search finds lies between its first place and the end.
-/
theorem Searching.search {rest : List Char} (h : Searching first position best? pending) :
    ∀ m ∈ automaton.search before position best? pending seen rest,
      Found first (position + rest.length) m := by
  induction rest generalizing before position best? pending seen with
  | nil => exact (h.advance automaton before none best?.isSome seen).1
  | cons c rest ih =>
    obtain ⟨hfound, hbehind⟩ := h.advance automaton before (some c) best?.isSome seen
    have hfound' : ∀ m ∈ (automaton.advance before (some c) position best?.isSome pending seen).1.or best?,
        ∀ n, position ≤ n → Found first n m := fun m hm n hn =>
      ⟨(hfound m hm).1, (hfound m hm).2.1, Nat.le_trans (hfound m hm).2.2 hn⟩
    rw [Automaton.search]
    simp only
    split
    · exact fun m hm => hfound' m hm _ (Nat.le_add_right _ _)
    · rw [List.length_cons, Nat.add_comm rest.length 1, ← Nat.add_assoc]
      refine ih ⟨Nat.le_succ_of_le h.le, fun p hp => ?_, fun m hm => hfound' m hm _ (Nat.le_succ _)⟩
      exact ⟨(hbehind p hp).1, Nat.le_succ_of_le (hbehind p hp).2⟩

/-- The first match from a place on lies behind it. -/
theorem firstMatch?_found {place : Place} (h : automaton.firstMatch? place = some m) :
    Found place.position (place.position + place.rest.length) m :=
  Searching.search ⟨Nat.le_refl _, by simp, by simp⟩ m h

end Automaton

/-! ## All matches -/

namespace Place

/-- To go forward is to read characters off the rest. -/
theorem forward_spec (place : Place) {n : Nat} (h : n ≤ place.rest.length) :
    (place.forward n).position = place.position + n ∧
      (place.forward n).position + (place.forward n).rest.length = place.position + place.rest.length := by
  induction n generalizing place with
  | zero => exact ⟨rfl, rfl⟩
  | succ n ih =>
    obtain ⟨before, position, rest⟩ := place
    cases rest with
    | nil => cases h
    | cons c rest =>
      obtain ⟨hposition, hlength⟩ := ih ⟨some c, position + 1, rest⟩ (Nat.le_of_succ_le_succ h)
      refine ⟨hposition.trans ?_, hlength.trans ?_⟩
      · simp only
        omega
      · simp only [List.length_cons]
        omega

end Place

namespace Automaton

/-- Behind a match the search goes on where it ends. -/
theorem Found.inOrder {place : Place} (h : Found place.position (place.position + place.rest.length) m)
    {rest : List Match}
    (hrest : InOrder ((place.forward (m.stop - place.position)).position +
      (place.forward (m.stop - place.position)).rest.length)
      (place.forward (m.stop - place.position)).position rest) :
    InOrder (place.position + place.rest.length) place.position (m :: rest) := by
  obtain ⟨hstart, hstop, hlength⟩ := h
  obtain ⟨hposition, htotal⟩ := place.forward_spec (n := m.stop - place.position) (by omega)
  rw [htotal, hposition, Nat.add_sub_cancel' (Nat.le_trans hstart hstop)] at hrest
  exact .cons hstart hstop hrest

/-- Each search starts where the last match ended, or one character behind it. -/
theorem matchesFrom_inOrder (automaton : Automaton) (n : Nat) (place : Place) (last? : Option Nat) :
    InOrder (place.position + place.rest.length) place.position (automaton.matchesFrom n place last?) := by
  fun_induction automaton.matchesFrom n place last? with
  | case1 | case2 | case3 | case4 => exact .nil (Nat.le_add_right _ _)
  | case5 _ place _ _ _ _ hrest m hm ih =>
    have hlength : 1 ≤ place.rest.length := by
      rw [List.isEmpty_iff, ← List.length_eq_zero_iff] at hrest
      omega
    obtain ⟨hposition, htotal⟩ := place.forward_spec hlength
    have hfound := firstMatch?_found hm
    rw [show place.next = place.forward 1 from rfl, htotal, hposition] at hfound
    exact Found.inOrder ⟨Nat.le_of_succ_le hfound.1, hfound.2⟩ ih
  | case6 _ _ _ _ hm _ ih => exact (firstMatch?_found hm).inOrder ih

end Automaton

/-- The matches of a pattern are in order. -/
theorem Pattern.matches_inOrder (p : Pattern) (text : List Char) :
    InOrder text.length 0 (p.matches text) := by
  have h := (Automaton.ofPattern p).matchesFrom_inOrder (text.length + 2) (.ofList text) none
  rwa [Place.ofList, Nat.zero_add] at h

/-- What the matcher finds is in order. -/
theorem Pattern.matcher_inOrder {pattern text : String} {cuts : List Match}
    (h : matcher pattern text = some cuts) : InOrder text.toList.length 0 cuts := by
  obtain ⟨p, -, rfl⟩ := Option.map_eq_some_iff.mp h
  exact p.matches_inOrder text.toList

/-! ## The empty pattern -/

/-- An empty match at every place of a text of this length. -/
def everywhere (length : Nat) : List Match :=
  (List.range (length + 1)).map fun i => ⟨i, i⟩

namespace Automaton

/-- The empty pattern matches at once, wherever it is tried. -/
theorem firstMatch?_empty (place : Place) :
    (ofPattern .empty).firstMatch? place = some ⟨place.position, place.position⟩ := by
  obtain ⟨before, position, rest⟩ := place
  have hempty : ofPattern .empty = ⟨#[.accept], 0, 0⟩ := rfl
  have hadvance (after : Option Char) :
      ((ofPattern .empty).advance before after position false [] #[0]).1 = some ⟨position, position⟩ ∧
        ((ofPattern .empty).advance before after position false [] #[0]).2.1 = [] := by
    simp [hempty, advance, reach, cut]
  cases rest with
  | nil => exact congrArg (Option.or · none) (hadvance none).1
  | cons c rest =>
    obtain ⟨hfound, hbehind⟩ := hadvance (some c)
    change search _ before position none [] #[0] (c :: rest) = _
    rw [search]
    simp only [Option.isSome_none, hfound, hbehind]
    rfl

/-- Where a match has ended the next one is one character further. -/
theorem matchesFrom_empty {n : Nat} {place : Place} (hn : place.rest.length ≤ n) :
    (ofPattern .empty).matchesFrom n place (some place.position) =
      (List.range' (place.position + 1) place.rest.length).map fun i => ⟨i, i⟩ := by
  obtain ⟨before, position, rest⟩ := place
  induction n generalizing before position rest with
  | zero =>
    obtain rfl : rest = [] := List.eq_nil_of_length_eq_zero (Nat.le_zero.mp hn)
    rfl
  | succ n ih =>
    cases rest with
    | nil => simp [matchesFrom, firstMatch?_empty]
    | cons c rest =>
      have ih := ih (some c) (position + 1) rest (Nat.le_of_succ_le_succ hn)
      have hforward : (⟨before, position, c :: rest⟩ : Place).forward (position + 1 - position) =
          ⟨some c, position + 1, rest⟩ := by
        rw [Nat.add_sub_cancel_left]
        rfl
      simp only [matchesFrom, firstMatch?_empty, Place.next, hforward, ih]
      simp [List.range'_succ]

end Automaton

/-- So it matches at every place of a text, from the first to the end. -/
theorem Pattern.matches_empty (text : List Char) : Pattern.empty.matches text = everywhere text.length := by
  have hle : (Place.ofList text).rest.length ≤ text.length + 1 := Nat.le_succ _
  have h := Automaton.matchesFrom_empty hle
  unfold Pattern.matches everywhere
  rw [Automaton.matchesFrom, Automaton.firstMatch?_empty, List.range_eq_range', List.range'_succ]
  simpa [Place.ofList, Place.forward] using h

/-- The matcher finds an empty match at every place for the empty pattern. -/
theorem Pattern.matcher_empty (text : String) :
    matcher "" text = some (everywhere text.toList.length) := by
  have hparse : parse? "" = some .empty := by decide +kernel
  rw [matcher, hparse, Option.map_some, matches_empty]

end ParLang
