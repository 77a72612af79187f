import ParLang.Proofs.Token.Lossless

/-!
# Regions of lines

The lines of a text are found by their number in two ways: a place counts the line breaks in front of it,
and `Span.ofLine` splits the text. They agree (`Span.holds_ofLine`): the region of the line of a place
holds that place and no line break.
-/

namespace ParLang

/-! ## Regions and lines -/

/-- A region of the source: both of its ends are between characters, or at an end of the source. -/
def Span.IsRegion (s : Span) (source : String) : Prop :=
  ∃ before text, s.Holds source before text

/-- A region that starts on the line. -/
def Span.StartsOn (s : Span) (source : String) (line : Nat) : Prop :=
  ∃ before text, s.Holds source before text ∧ line = 1 + before.toList.count '\n'

/-- A region that ends on the line. -/
def Span.EndsOn (s : Span) (source : String) (line : Nat) : Prop :=
  ∃ before text, s.Holds source before text ∧ line = 1 + (before ++ text).toList.count '\n'

/-- A region with a place on the line in front of it. -/
def Span.Follows (s : Span) (source : String) (line : Nat) : Prop :=
  ∃ front between text, s.Holds source (front ++ between) text ∧ line = 1 + front.toList.count '\n'

namespace Span

variable {s : Span} {source : String} {line : Nat}

/-- What starts on a line is a region of the source. -/
theorem StartsOn.isRegion (h : s.StartsOn source line) : s.IsRegion source := by
  obtain ⟨before, text, hholds, -⟩ := h
  exact ⟨before, text, hholds⟩

/-- What ends on a line is one too. -/
theorem EndsOn.isRegion (h : s.EndsOn source line) : s.IsRegion source := by
  obtain ⟨before, text, hholds, -⟩ := h
  exact ⟨before, text, hholds⟩

/-- What follows on a line is one too. -/
theorem Follows.isRegion (h : s.Follows source line) : s.IsRegion source := by
  obtain ⟨front, between, text, hholds, -⟩ := h
  exact ⟨front ++ between, text, hholds⟩

/-- What starts on a line follows on it. -/
theorem StartsOn.follows (h : s.StartsOn source line) : s.Follows source line := by
  obtain ⟨before, text, hholds, hline⟩ := h
  exact ⟨before, "", text, by rwa [String.append_empty], hline⟩

/-- Of two ways to split a text those are the same whose first parts have as many bytes. -/
theorem eq_of_append_eq {cs cs' ds ds' : List Char} (h : cs ++ ds = cs' ++ ds')
    (hbytes : byteLength cs = byteLength cs') : cs = cs' := by
  induction cs generalizing cs' with
  | nil =>
    cases cs' with
    | nil => rfl
    | cons c' cs' => exact absurd hbytes (Nat.ne_of_lt (byteLength_pos (List.cons_ne_nil c' cs')))
  | cons c cs ih =>
    cases cs' with
    | nil => exact absurd hbytes.symm (Nat.ne_of_lt (byteLength_pos (List.cons_ne_nil c cs)))
    | cons c' cs' =>
      obtain ⟨rfl, hrest⟩ := List.cons.inj h
      rw [ih hrest (Nat.add_left_cancel hbytes)]

/-- A region starts on one line only. -/
theorem StartsOn.unique {line' : Nat} (h : s.StartsOn source line) (h' : s.StartsOn source line') :
    line = line' := by
  obtain ⟨before, text, ⟨after, hsource, hspan⟩, rfl⟩ := h
  obtain ⟨before', text', ⟨after', hsource', hspan'⟩, rfl⟩ := h'
  have hbytes : before.utf8ByteSize = before'.utf8ByteSize :=
    congrArg Span.start (hspan.symm.trans hspan')
  have hsplit := congrArg String.toList (hsource.symm.trans hsource')
  simp only [String.toList_append, List.append_assoc] at hsplit
  rw [eq_of_append_eq hsplit (by simpa [byteLength_ofList] using hbytes)]

/-- A region ends within the source. -/
theorem IsRegion.le (h : s.IsRegion source) : s.start + s.length ≤ source.utf8ByteSize := by
  obtain ⟨before, text, after, rfl, rfl⟩ := h
  simp only [length, String.utf8ByteSize_append]
  omega

end Span

/-! ## Splitting -/

variable {line front rest cs ds : List Char} {p : Char → Bool} {c : Char}

/-- The first line ends before the first line break. -/
theorem splitLines_append_newline (h : '\n' ∉ line) (rest : List Char) :
    splitLines (line ++ '\n' :: rest) = line :: splitLines rest := by
  induction line with
  | nil => simp [splitLines]
  | cons c line ih =>
    obtain ⟨hc, hline⟩ := not_or.mp (mt List.mem_cons.mpr h)
    rw [List.cons_append, splitLines, if_neg (Ne.symm hc), ih hline]

/-- The first line of a text is what stands in front of the first break. -/
theorem splitLines_eq_cons (cs : List Char) :
    ∃ lines, splitLines cs = cs.takeWhile (· != '\n') :: lines := by
  induction cs with
  | nil => exact ⟨[], rfl⟩
  | cons c cs ih =>
    obtain ⟨lines, ih⟩ := ih
    by_cases hc : c = '\n'
    · exact ⟨splitLines cs, by simp [splitLines, hc]⟩
    · exact ⟨lines, by simp [splitLines, hc, ih]⟩

/-- A character that is not dropped keeps all in front of it. -/
theorem dropTrailing_append_cons (hc : p c = false) (cs ds : List Char) :
    dropTrailing p (cs ++ c :: ds) = cs ++ c :: dropTrailing p ds := by
  simp only [dropTrailing, List.reverse_append, List.reverse_cons, List.append_assoc,
    List.singleton_append, List.dropWhile_append]
  split
  · next hnil =>
    rw [List.isEmpty_iff.mp hnil]
    simp [hc]
  · simp

/-- What is left is a beginning. -/
theorem dropTrailing_prefix (p : Char → Bool) (cs : List Char) : dropTrailing p cs <+: cs := by
  rw [dropTrailing, ← List.reverse_suffix, List.reverse_reverse]
  exact List.dropWhile_suffix p

/-- Behind `cs` the line is that many line breaks further, and it started with what stands behind the
last of them. The induction is on their number. -/
theorem ofLineIn_splitLines (cs ds : List Char) (start : Nat) :
    ∃ front line, cs = front ++ line ∧ '\n' ∉ line ∧
      Span.ofLineIn (splitLines (cs ++ ds)) start (1 + cs.count '\n') =
        some ⟨start + byteLength front, start + byteLength front +
          byteLength (dropTrailing (· == '\r') (line ++ ds.takeWhile (· != '\n')))⟩ := by
  induction hcount : cs.count '\n' generalizing cs start with
  | zero =>
    have hcs : '\n' ∉ cs := List.count_eq_zero.mp hcount
    obtain ⟨lines, hlines⟩ := splitLines_eq_cons (cs ++ ds)
    have hall : ∀ c ∈ cs, (c != '\n') = true := fun c hc => bne_iff_ne.mpr fun h => hcs (h ▸ hc)
    refine ⟨[], cs, rfl, hcs, ?_⟩
    rw [hlines, List.takeWhile_append_of_pos hall, Span.ofLineIn, if_pos rfl]
    rfl
  | succ k ih =>
    have hmem : '\n' ∈ cs := List.count_pos_iff.mp (by omega)
    obtain ⟨first, rest, rfl, hfirst⟩ := List.eq_append_cons_of_mem hmem
    have hrest : rest.count '\n' = k := by
      rw [List.count_append, List.count_eq_zero.mpr hfirst, List.count_cons_self] at hcount
      omega
    obtain ⟨front, line, rfl, hline, hspan⟩ := ih rest (start + byteLength first + 1) hrest
    refine ⟨first ++ '\n' :: front, line, by simp, hline, ?_⟩
    rw [List.append_assoc, List.cons_append, splitLines_append_newline hfirst, Span.ofLineIn,
      if_neg (by omega), show 1 + (k + 1) - 1 = 1 + k by omega, hspan]
    have hbytes : byteLength (first ++ '\n' :: front) = byteLength first + 1 + byteLength front := by
      rw [byteLength_append, byteLength, Nat.add_assoc]
      rfl
    rw [hbytes]
    simp only [Nat.add_assoc]

/-- What stands before the end of a line, without what belongs to the end. -/
theorem exists_eq_dropTrailing_append (cs : List Char) :
    ∃ after, cs = dropTrailing (· == '\r') (cs.takeWhile (· != '\n')) ++ after ∧
      '\n' ∉ dropTrailing (· == '\r') (cs.takeWhile (· != '\n')) := by
  obtain ⟨cut, hcut⟩ := dropTrailing_prefix (· == '\r') (cs.takeWhile (· != '\n'))
  refine ⟨cut ++ cs.dropWhile (· != '\n'), ?_, fun hmem => ?_⟩
  · rw [← List.append_assoc, hcut, List.takeWhile_append_dropWhile]
  · have hline : '\n' ∈ cs.takeWhile (· != '\n') := hcut ▸ List.mem_append_left _ hmem
    exact absurd (Cursor.of_mem_takeWhile hline) (by decide)

/-- A part of a text is held by the region that its bytes take up. -/
theorem Span.holds_ofList {source : String} (before text after : List Char)
    (h : source.toList = before ++ text ++ after) :
    Span.Holds ⟨byteLength before, byteLength (before ++ text)⟩ source (String.ofList before)
      (String.ofList text) := by
  refine ⟨String.ofList after, ?_, ?_⟩
  · rw [← String.ofList_append, ← String.ofList_append, ← h, String.ofList_toList]
  · rw [← String.ofList_append, ← byteLength_ofList, ← byteLength_ofList]

/-- **The region of the line of a place holds the place**, if a character stands there that does not
belong to the end of a line. -/
theorem Span.holds_ofLine {source : String} (h : source.toList = cs ++ c :: ds) (hnewline : c ≠ '\n')
    (hreturn : c ≠ '\r') :
    ∃ before text, (Span.ofLine source (1 + cs.count '\n')).Holds source before text ∧
      '\n' ∉ text.toList ∧ before.utf8ByteSize ≤ byteLength cs ∧
      byteLength cs < (before ++ text).utf8ByteSize := by
  obtain ⟨front, line, rfl, hline, hspan⟩ := ofLineIn_splitLines cs (c :: ds) 0
  obtain ⟨after, hds, htail⟩ := exists_eq_dropTrailing_append ds
  have hwhole : (c :: ds).takeWhile (· != '\n') = c :: ds.takeWhile (· != '\n') := by
    simp [hnewline]
  rw [hwhole, dropTrailing_append_cons (by simpa using hreturn)] at hspan
  generalize dropTrailing (· == '\r') (ds.takeWhile (· != '\n')) = tail at hspan hds htail
  have hregion : Span.ofLine source (1 + (front ++ line).count '\n') =
      ⟨byteLength front, byteLength (front ++ (line ++ c :: tail))⟩ := by
    rw [Span.ofLine, h, if_neg (by omega), hspan, byteLength_append front]
    simp
  have hsource : source.toList = front ++ (line ++ c :: tail) ++ after := by rw [h, hds]; simp
  refine ⟨_, _, hregion ▸ Span.holds_ofList _ _ _ hsource, ?_, ?_, ?_⟩
  · simp [hline, htail, hnewline.symm]
  · rw [← byteLength_ofList, byteLength_append]
    exact Nat.le_add_right _ _
  · rw [← String.ofList_append, ← byteLength_ofList, ← List.append_assoc, byteLength_append _ (c :: tail)]
    exact Nat.lt_add_of_pos_right (byteLength_pos (List.cons_ne_nil c tail))

end ParLang
