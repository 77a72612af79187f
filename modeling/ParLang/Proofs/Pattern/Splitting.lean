import Mathlib.Data.List.DropRight
import ParLang.Pattern.Split
import ParLang.Proofs.Pattern.Matches
import ParLang.Source.Span

/-!
# Cutting a text

What lies between matches in order are the `gaps`, and a text is its gaps and its matches in turn.
Splitting gives the texts of the gaps up to the last that is not empty. Matches at the start, at the end
and next to each other need no case of their own, for they leave empty gaps.
-/

namespace ParLang

variable {text cs : List Char} {cuts : List Match} {d : Char} {a b c first last length : Nat}

/-! ## Parts of a text -/

namespace Match

/-- The text that the match covers. -/
def of (m : Match) (text : List Char) : List Char :=
  (text.drop m.start).take (m.stop - m.start)

/-- The text that the match covers, if its ends are places of the text, in order. -/
def of? (m : Match) (text : List Char) : Option (List Char) :=
  if m.start ≤ m.stop ∧ m.stop ≤ text.length then some (m.of text) else none

/-- Parts of a text that meet make up the part from end to end. -/
theorem of_append_of (hab : a ≤ b) (hbc : b ≤ c) (text : List Char) :
    (⟨a, b⟩ : Match).of text ++ (⟨b, c⟩ : Match).of text = (⟨a, c⟩ : Match).of text := by
  simp only [of]
  rw [show c - a = (b - a) + (c - b) by omega, List.take_add, List.drop_drop, Nat.add_sub_cancel' hab]

/-- The part up to the end is what is left. -/
theorem of_length (a : Nat) (text : List Char) : (⟨a, text.length⟩ : Match).of text = text.drop a :=
  List.take_of_length_le (by rw [List.length_drop])

/-- The characters of a part are those at its places. -/
theorem mem_of {m : Match} {x : Char} :
    x ∈ m.of text ↔ ∃ i, m.start ≤ i ∧ i < m.stop ∧ text[i]? = some x := by
  rw [List.mem_iff_getElem?]
  constructor
  · rintro ⟨i, hi⟩
    rw [of, List.getElem?_take, List.getElem?_drop] at hi
    split_ifs at hi with hlt
    exact ⟨m.start + i, Nat.le_add_right _ _, by omega, hi⟩
  · rintro ⟨i, hstart, hstop, hi⟩
    refine ⟨i - m.start, ?_⟩
    rwa [of, List.getElem?_take, List.getElem?_drop, if_pos (by omega), Nat.add_sub_cancel' hstart]

end Match

/-- The parts of a text that lie between matches. -/
def gaps (first length : Nat) : List Match → List Match
  | [] => [⟨first, length⟩]
  | m :: rest => ⟨first, m.start⟩ :: gaps m.stop length rest

namespace InOrder

/-- Matches are in order only inside the text. -/
theorem le (h : InOrder length first cuts) : first ≤ length := by
  induction h with
  | nil hfirst => exact hfirst
  | cons hstart hstop _ ih => exact hstart.trans (hstop.trans ih)

/-- Each of them starts behind the place from which they are in order. -/
theorem le_start (h : InOrder length first cuts) : ∀ m ∈ cuts, first ≤ m.start := by
  induction h with
  | nil => exact nofun
  | cons hstart hstop _ ih =>
    refine List.forall_mem_cons.mpr ⟨hstart, fun m hm => ?_⟩
    exact (hstart.trans hstop).trans (ih m hm)

/-- Fewer matches are in order as well. -/
theorem filter (p : Match → Bool) (h : InOrder length first cuts) : InOrder length first (cuts.filter p) := by
  induction h with
  | nil hfirst => exact .nil hfirst
  | cons hstart hstop _ ih =>
    rw [List.filter_cons]
    split
    · exact .cons hstart hstop ih
    · exact ih.anti (hstart.trans hstop)

/-- No gap is out of range. -/
theorem mapM_of?_gaps (h : InOrder text.length first cuts) :
    (gaps first text.length cuts).mapM (·.of? text) =
      some ((gaps first text.length cuts).map (·.of text)) := by
  induction h with
  | nil hfirst => simp [gaps, Match.of?, hfirst]
  | cons hstart hstop hrest ih =>
    rw [gaps, List.mapM_cons, Match.of?, if_pos ⟨hstart, hstop.trans hrest.le⟩, ih]
    rfl

/-- So does each gap. -/
theorem le_start_gaps (h : InOrder length first cuts) : ∀ g ∈ gaps first length cuts, first ≤ g.start := by
  induction h with
  | nil => exact List.forall_mem_singleton.mpr le_rfl
  | cons hstart hstop _ ih =>
    refine List.forall_mem_cons.mpr ⟨le_rfl, fun g hg => ?_⟩
    exact (hstart.trans hstop).trans (ih g hg)

/-- A gap and a match have no character in common. -/
theorem apart (h : InOrder length first cuts) :
    ∀ g ∈ gaps first length cuts, ∀ m ∈ cuts, m.stop ≤ g.start ∨ g.stop ≤ m.start := by
  induction h with
  | nil => exact nofun
  | cons hstart hstop hrest ih =>
    refine List.forall_mem_cons.mpr ⟨fun m hm => .inr ?_, fun g hg => ?_⟩
    · rcases List.mem_cons.mp hm with rfl | hm
      · exact le_rfl
      · exact hstop.trans (hrest.le_start m hm)
    · refine List.forall_mem_cons.mpr ⟨.inl (hrest.le_start_gaps g hg), ih g hg⟩

/-- The gaps and the matches in turn are the text. -/
theorem weave (h : InOrder length first cuts) (text : List Char) :
    ∃ q qs, (gaps first length cuts).map (·.of text) = q :: qs ∧ qs.length = cuts.length ∧
      q ++ (List.zipWith (· ++ ·) (cuts.map (·.of text)) qs).flatten = (⟨first, length⟩ : Match).of text := by
  induction h with
  | nil => exact ⟨_, [], rfl, rfl, List.append_nil _⟩
  | @cons first m rest hstart hstop hrest ih =>
    obtain ⟨q, qs, hgaps, hlength, hweave⟩ := ih
    refine ⟨_, q :: qs, by rw [gaps, List.map_cons, hgaps], by simp [hlength], ?_⟩
    rw [List.map_cons, List.zipWith_cons_cons, List.flatten_cons, List.append_assoc, hweave,
      Match.of_append_of hstop hrest.le, Match.of_append_of hstart (hstop.trans hrest.le)]

/-- The pieces are the texts of the gaps. -/
theorem piecesFrom (h : InOrder text.length first cuts) :
    ParLang.piecesFrom first (text.drop first) cuts = (gaps first text.length cuts).map (·.of text) := by
  induction h with
  | nil => rw [ParLang.piecesFrom, gaps, List.map_singleton, Match.of_length]
  | @cons first m rest hstart hstop _ ih =>
    rw [ParLang.piecesFrom, List.drop_drop, Nat.add_sub_cancel' (hstart.trans hstop), ih]
    rfl

/-- The pieces, if the gaps are known. -/
theorem piecesFrom_eq (h : InOrder text.length 0 cuts) {pieces : List (List Char)}
    (hgaps : (gaps 0 text.length cuts).map (·.of text) = pieces) : ParLang.piecesFrom 0 text cuts = pieces :=
  (h.piecesFrom).trans hgaps

end InOrder

/-! ## Trailing empty pieces -/

/-- Only empty pieces are dropped, all of those at the end. -/
theorem dropEmptyTail_spec (pieces : List (List Char)) :
    ∃ j, dropEmptyTail pieces = pieces.take j ∧ (∀ q ∈ pieces.drop j, q = []) ∧
      (dropEmptyTail pieces).getLast? ≠ some [] := by
  have hpieces : dropEmptyTail pieces ++ pieces.rtakeWhile List.isEmpty = pieces :=
    List.rdropWhile_append_rtakeWhile
  refine ⟨(dropEmptyTail pieces).length, List.prefix_iff_eq_take.mp ⟨_, hpieces⟩, fun q hq => ?_,
    fun hlast => ?_⟩
  · have hempty : pieces.drop (dropEmptyTail pieces).length = pieces.rtakeWhile List.isEmpty := by
      nth_rewrite 2 [← hpieces]
      exact List.drop_left
    exact List.isEmpty_iff.mp (List.mem_rtakeWhile_imp (hempty ▸ hq))
  · have hne : dropEmptyTail pieces ≠ [] := by
      intro hnil
      rw [hnil] at hlast
      cases hlast
    have hsome : ¬ ((dropEmptyTail pieces).getLast hne).isEmpty := List.rdropWhile_last_not _ _ hne
    rw [List.getLast?_eq_getLast_of_ne_nil hne] at hlast
    exact hsome (List.isEmpty_iff.mpr (Option.some.inj hlast))

/-- Joining one list more, behind the others. -/
theorem intercalate_concat {α : Type} (sep : List α) {ls : List (List α)} (hls : ls ≠ []) (l : List α) :
    sep.intercalate (ls ++ [l]) = sep.intercalate ls ++ sep ++ l := by
  induction ls with
  | nil => exact absurd rfl hls
  | cons l' ls ih =>
    cases ls with
    | nil => simp [List.intercalate]
    | cons l'' ls =>
      rw [List.cons_append, List.cons_append, List.intercalate_cons_cons, ← List.cons_append,
        ih (List.cons_ne_nil _ _), List.intercalate_cons_cons]
      simp only [List.append_assoc]

/-- Without its trailing empty pieces a joined text ends in front of its trailing delimiters. The
induction takes the pieces from the end. -/
theorem intercalate_dropEmptyTail {qs : List (List Char)} (h : ∀ q ∈ qs, d ∉ q) :
    [d].intercalate (dropEmptyTail qs) = dropTrailing (· == d) ([d].intercalate qs) := by
  induction qs using List.reverseRecOn with
  | nil => rfl
  | append_singleton qs q ih =>
    have ih := ih fun q' hq' => h q' (List.mem_append_left _ hq')
    rcases List.eq_nil_or_concat q with rfl | ⟨front, x, rfl⟩
    · have hdrop : dropEmptyTail (qs ++ [[]]) = dropEmptyTail qs :=
        List.rdropWhile_concat_pos _ _ _ rfl
      rw [hdrop, ih]
      rcases eq_or_ne qs [] with rfl | hqs
      · rfl
      · rw [intercalate_concat _ hqs, List.append_nil]
        exact (List.rdropWhile_concat_pos _ _ _ (by simp)).symm
    · have hx : x ≠ d := by
        rintro rfl
        exact h _ (List.mem_append_right _ List.mem_cons_self) (by simp)
      have hkeep : dropEmptyTail (qs ++ [front.concat x]) = qs ++ [front.concat x] :=
        List.rdropWhile_concat_neg _ _ _ (by simp)
      obtain ⟨ys, hys⟩ : ∃ ys, [d].intercalate (qs ++ [front.concat x]) = ys ++ [x] := by
        rcases eq_or_ne qs [] with rfl | hqs
        · exact ⟨front, by simp [List.intercalate]⟩
        · exact ⟨_, by rw [intercalate_concat _ hqs, List.concat_eq_append, ← List.append_assoc]⟩
      rw [hkeep, hys]
      exact (List.rdropWhile_concat_neg _ _ _ (by simpa using hx)).symm

/-! ## Splitting -/

/-- The matches that cut: one that ends at the start of the text does not. -/
def counted (cuts : List Match) : List Match :=
  cuts.filter (·.stop != 0)

/-- A split text, if a match counts: the pieces between those that do. -/
theorem splitAt_of_counted (h : counted cuts ≠ []) :
    splitAt text cuts = dropEmptyTail (piecesFrom 0 text (counted cuts)) := by
  unfold splitAt
  split
  case h_1 hnil => exact absurd hnil h
  case h_2 => rfl

/-- Matches that count are in order. -/
theorem InOrder.counted (h : InOrder length first cuts) : InOrder length first (counted cuts) :=
  h.filter _

/-- The matches are the occurrences of a character. -/
def Occurrences (d : Char) (text : List Char) (cuts : List Match) : Prop :=
  ∀ m, m ∈ cuts ↔ m.stop = m.start + 1 ∧ text[m.start]? = some d

/-- Matches of one character all count, since none is empty. -/
theorem Occurrences.counted (h : Occurrences d text cuts) : ParLang.counted cuts = cuts := by
  refine List.filter_eq_self.mpr fun m hm => ?_
  rw [((h m).mp hm).1]
  rfl

/-- Each of them covers the character. -/
theorem Occurrences.of {m : Match} (h : Occurrences d text cuts) (hm : m ∈ cuts) : m.of text = [d] := by
  obtain ⟨hstop, hd⟩ := (h m).mp hm
  rw [Match.of, hstop, Nat.add_sub_cancel_left, List.take_one, List.head?_drop, hd, Option.toList_some]

/-- No gap holds it, for each of its places is covered. -/
theorem Occurrences.not_mem_gaps (h : Occurrences d text cuts) (hcuts : InOrder text.length 0 cuts) :
    ∀ q ∈ (gaps 0 text.length cuts).map (·.of text), d ∉ q := by
  intro q hq hd
  obtain ⟨g, hg, rfl⟩ := List.mem_map.mp hq
  obtain ⟨i, hstart, hstop, hi⟩ := Match.mem_of.mp hd
  rcases hcuts.apart g hg ⟨i, i + 1⟩ ((h _).mpr ⟨rfl, hi⟩) with hle | hle
  · exact absurd hstart (Nat.not_le.mpr hle)
  · exact absurd hstop (Nat.not_lt.mpr hle)

/-- Joining with one character between, written as the first list and then pairs. -/
theorem intercalate_eq (q : List Char) (qs : List (List Char)) :
    [d].intercalate (q :: qs) =
      q ++ (List.zipWith (· ++ ·) (List.replicate qs.length [d]) qs).flatten := by
  induction qs generalizing q with
  | nil => simp
  | cons q' qs ih => rw [List.intercalate_cons_cons, ih, List.append_assoc]; rfl

/-- Joined with the character that cuts it a text is whole again, but for the end. -/
theorem Occurrences.intercalate_splitAt (h : Occurrences d text cuts) (hcuts : InOrder text.length 0 cuts)
    (hd : d ∈ text) : [d].intercalate (splitAt text cuts) = dropTrailing (· == d) text := by
  have hsome : cuts ≠ [] := by
    obtain ⟨i, hi⟩ := List.mem_iff_getElem?.mp hd
    exact List.ne_nil_of_mem ((h ⟨i, i + 1⟩).mpr ⟨rfl, hi⟩)
  obtain ⟨q, qs, hgaps, hlength, hweave⟩ := hcuts.weave text
  have hsame : cuts.map (·.of text) = List.replicate qs.length [d] := by
    rw [List.eq_replicate_iff]
    refine ⟨by rw [List.length_map, hlength], fun r hr => ?_⟩
    obtain ⟨m, hm, rfl⟩ := List.mem_map.mp hr
    exact h.of hm
  have htext : [d].intercalate (q :: qs) = text := by
    rw [intercalate_eq, ← hsame, hweave, Match.of_length, List.drop_zero]
  have hcounted : ParLang.counted cuts = cuts := h.counted
  rw [splitAt_of_counted (hcounted.symm ▸ hsome), hcounted, hcuts.piecesFrom_eq hgaps,
    intercalate_dropEmptyTail (hgaps ▸ h.not_mem_gaps hcuts), htext]

/-- Cuts at every place make a piece of each character, and an empty one at the end. -/
theorem piecesFrom_everywhere (first : Nat) (text : List Char) :
    piecesFrom first text ((List.range' (first + 1) text.length).map fun i => ⟨i, i⟩) =
      (text.map fun c => [c]) ++ [[]] := by
  induction text generalizing first with
  | nil => rfl
  | cons c cs ih =>
    rw [List.length_cons, List.range'_succ, List.map_cons, piecesFrom]
    simp only [Nat.add_sub_cancel_left, List.take_succ_cons, List.take_zero, List.drop_succ_cons,
      List.drop_zero, ih]
    rfl

/-- So splitting everywhere gives the characters. -/
theorem splitAt_everywhere (htext : text ≠ []) :
    splitAt text (everywhere text.length) = text.map fun c => [c] := by
  have hcounted : counted (everywhere text.length) =
      (List.range' (0 + 1) text.length).map fun i => ⟨i, i⟩ := by
    rw [counted, everywhere, List.range_eq_range', List.range'_succ, List.map_cons,
      List.filter_cons_of_neg (by simp)]
    refine List.filter_eq_self.mpr fun m hm => ?_
    obtain ⟨i, hi, rfl⟩ := List.mem_map.mp hm
    exact bne_iff_ne.mpr (Nat.ne_of_gt (List.mem_range'_1.mp hi).1)
  rw [splitAt_of_counted, hcounted, piecesFrom_everywhere]
  · refine (List.rdropWhile_concat_pos _ _ _ rfl).trans (List.rdropWhile_eq_self_iff.mpr fun hne => ?_)
    simp
  · rw [hcounted]
    simpa using htext

/-- **Splitting a text** at matches in order. Those count that do not end at the start of the text: without any
the text comes back whole, and otherwise the pieces that come back are all pieces between them, each sliced in
range, but for the empty ones at the end. -/
theorem splitting (text : List Char) (cuts : List Match) (h : InOrder text.length 0 cuts) :
    (counted cuts = [] → splitAt text cuts = [text]) ∧
      (counted cuts ≠ [] → ∃ q qs j,
        (gaps 0 text.length (counted cuts)).mapM (·.of? text) = some (q :: qs) ∧
        qs.length = (counted cuts).length ∧
        text = q ++ (List.zipWith (· ++ ·) ((counted cuts).map (·.of text)) qs).flatten ∧
        splitAt text cuts = (q :: qs).take j ∧ (∀ r ∈ (q :: qs).drop j, r = []) ∧
        (splitAt text cuts).getLast? ≠ some []) ∧
      (∀ d ∈ text, Occurrences d text cuts →
        [d].intercalate (splitAt text cuts) = dropTrailing (· == d) text) ∧
      (text ≠ [] → cuts = everywhere text.length → splitAt text cuts = text.map fun c => [c]) := by
  refine ⟨fun hnone => ?_, fun hsome => ?_, fun d hd hcuts => hcuts.intercalate_splitAt h hd, ?_⟩
  · unfold splitAt
    rw [show cuts.filter (·.stop != 0) = [] from hnone]
  · have hcounted := h.counted
    obtain ⟨q, qs, hgaps, hlength, hweave⟩ := hcounted.weave text
    obtain ⟨j, htake, hdrop, hlast⟩ := dropEmptyTail_spec (q :: qs)
    rw [splitAt_of_counted hsome, hcounted.piecesFrom_eq hgaps]
    refine ⟨q, qs, j, by rw [hcounted.mapM_of?_gaps, hgaps], hlength, ?_, htake, hdrop, hlast⟩
    rw [hweave, Match.of_length, List.drop_zero]
  · rintro htext rfl
    exact splitAt_everywhere htext

/-- The commas of `,a,b,`. -/
def commaCuts : List Match :=
  [⟨0, 1⟩, ⟨2, 3⟩, ⟨4, 5⟩]

/-- These are all the commas of the text. -/
theorem occurrences_commaCuts : Occurrences ',' ",a,b,".toList commaCuts := by
  have hmem : ∀ m ∈ commaCuts, m.stop = m.start + 1 ∧ ",a,b,".toList[m.start]? = some ',' := by decide
  have hall : ∀ start < 5, ",a,b,".toList[start]? = some ',' → ⟨start, start + 1⟩ ∈ commaCuts := by decide
  refine fun m => ⟨hmem m, fun ⟨hstop, hd⟩ => ?_⟩
  obtain ⟨start, stop⟩ := m
  obtain rfl : stop = start + 1 := hstop
  exact hall start (List.getElem?_eq_some_iff.mp hd).1 hd

/-- A delimiter in front, one in the middle and one at the end; no delimiter; and a cut at every place. -/
theorem splitting_commas :
    (InOrder 5 0 commaCuts ∧ counted commaCuts ≠ [] ∧
        (splitAt ",a,b,".toList commaCuts).getLast? ≠ some []) ∧
      (Occurrences ',' ",a,b,".toList commaCuts ∧
        [','].intercalate (splitAt ",a,b,".toList commaCuts) = ",a,b".toList) ∧
      (counted [] = [] ∧ splitAt "ab".toList [] = ["ab".toList]) ∧
      "ab".toList ≠ [] ∧ splitAt "ab".toList (everywhere 2) = [['a'], ['b']] := by
  have hcommas : InOrder ",a,b,".toList.length 0 commaCuts :=
    .cons (by decide) (by decide) (.cons (by decide) (by decide) (.cons (by decide) (by decide)
      (.nil (by decide))))
  have hplaces : InOrder "ab".toList.length 0 (everywhere 2) :=
    .cons (by decide) (by decide) (.cons (by decide) (by decide) (.cons (by decide) (by decide)
      (.nil (by decide))))
  have hsome : counted commaCuts ≠ [] := by decide
  obtain ⟨-, hpieces, hjoined, -⟩ := splitting ",a,b,".toList commaCuts hcommas
  obtain ⟨q, qs, j, -, -, -, -, -, hlast⟩ := hpieces hsome
  refine ⟨⟨hcommas, hsome, hlast⟩, ⟨occurrences_commaCuts, ?_⟩, ⟨rfl, ?_⟩, by decide, ?_⟩
  · exact hjoined ',' (by decide) occurrences_commaCuts
  · exact (splitting "ab".toList [] (.nil (by decide))).1 rfl
  · exact (splitting "ab".toList (everywhere 2) hplaces).2.2.2 (by decide) rfl

end ParLang
