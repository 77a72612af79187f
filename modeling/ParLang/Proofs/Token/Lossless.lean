import ParLang.Proofs.Token.Rendering

/-!
# Nothing is lost

The tokens of a text, with their regions and lines, account for every byte of it: `Lossless` says what
stands in the region of a token, what stands between the regions, and what the lines are. It speaks of
the text alone. A run is first seen from its places (`Cursor.Laid`), where each token is one step, and
the regions are read off the way from the start of the text to each place.
-/

namespace ParLang

/-! ## Regions of a text -/

/-- The region holds the text in the source, and `before` stands in front of it. -/
def Span.Holds (s : Span) (source before text : String) : Prop :=
  ∃ after, source = before ++ text ++ after ∧
    s = ⟨before.utf8ByteSize, (before ++ text).utf8ByteSize⟩

/-- The regions in front of each of the tokens and behind the one before it, from `start` on. -/
def Token.gapsFrom : Nat → List Token → List Span
  | _, [] => []
  | start, t :: ts => ⟨start, t.span.start⟩ :: Token.gapsFrom t.span.stop ts

/-- The token as it is written: a string stands in quotes. -/
def Token.written (t : Token) : String :=
  String.ofList (t.kind.written t.lexeme)

/-- The tokens account for all of the source. -/
structure Lossless (source : String) (ts : List Token) : Prop where
  /-- The list ends with its only end token, which is at the end of the source. -/
  ended : ∃ us e, ts = us ++ [e] ∧ (∀ t ∈ us, t.kind ≠ .eof) ∧ e.kind = .eof ∧
    e.span = ⟨source.utf8ByteSize, source.utf8ByteSize⟩
  /-- A token starts where those before it have ended. -/
  ordered : ts.Pairwise fun t u => t.span.stop ≤ u.span.start
  /-- Only the end token is empty. -/
  nonempty : ∀ t ∈ ts, t.kind ≠ .eof → t.span.start < t.span.stop
  /-- In the region of a token the token is written, and its line counts the lines in front of it. -/
  holds : ∀ t ∈ ts, ∃ before, t.span.Holds source before t.written ∧
    t.line = 1 + before.toList.count '\n'
  /-- Everything else is trivia. -/
  gaps : ∀ gap ∈ Token.gapsFrom 0 ts, ∃ before text, gap.Holds source before text ∧
    Trivia (gap.stop = source.utf8ByteSize) text.toList

/-- The bytes of a text are counted as the library counts them. -/
theorem byteLength_ofList (cs : List Char) : byteLength cs = (String.ofList cs).utf8ByteSize := by
  induction cs with
  | nil => rfl
  | cons c cs ih =>
    have hsplit : String.ofList (c :: cs) = String.singleton c ++ String.ofList cs := by
      rw [String.singleton_eq_ofList, ← String.ofList_append]
      rfl
    rw [byteLength, ih, hsplit, String.utf8ByteSize_append, String.utf8ByteSize_singleton]

/-- Characters take up bytes. -/
theorem byteLength_pos {cs : List Char} (h : cs ≠ []) : 0 < byteLength cs := by
  obtain ⟨c, cs, rfl⟩ := List.exists_cons_of_ne_nil h
  exact Nat.add_pos_left (Char.utf8Size_pos c) _

namespace Cursor

variable {source : String} {c c' : Cursor} {t : Token} {ts : List Token} {cs : List Char}

/-! ## Steps -/

/-- A word is no string and no end token. -/
theorem keyword?_getD (w : String) :
    (Token.Kind.keyword? w).getD .identifier ∉ [.string, .eof] := by
  cases hword : Token.Kind.keyword? w with
  | none => exact (by decide)
  | some kind =>
    rcases keyword?_eq_some hword with ⟨rfl, -⟩ | hmem
    · exact (by decide)
    · have hreserved : ∀ k ∈ Token.Kind.reserved, k ∉ [.string, .eof] := by decide
      exact hreserved kind hmem

/-- What spells a token is what is written for it. -/
theorem Spelled.eq_written {kind : Token.Kind} {text : String} (h : Spelled kind text cs) :
    cs = kind.written text := by
  have hplain : ∀ w : List Char, kind ≠ .string → w = kind.written (String.ofList w) := by
    intro w hkind
    rw [Token.Kind.written, if_neg hkind, String.toList_ofList]
  cases h with
  | word h => exact hplain cs fun hstring => keyword?_getD _ (by rw [hstring]; decide)
  | number => exact hplain cs fun hstring => Token.Kind.noConfusion hstring
  | string h => rw [Token.Kind.written, if_pos rfl, String.toList_ofList]
  | symbol h => exact hplain cs fun hstring => (symbol?_inv h).2.2 (by rw [hstring]; decide)

/-- What is spelled is no end token. -/
theorem Spelled.kind_ne_eof {kind : Token.Kind} {text : String} (h : Spelled kind text cs) :
    kind ≠ .eof := by
  cases h with
  | word h => exact fun heof => keyword?_getD _ (by rw [heof]; decide)
  | number => nofun
  | string h => nofun
  | symbol h => exact fun heof => (symbol?_inv h).2.2 (by rw [heof]; decide)

/-- From `c`, over the trivia `gap`, the place `c₁` of the token is reached, and `c'` is behind it. -/
structure Reads (c : Cursor) (gap : List Char) (c₁ : Cursor) (t : Token) (c' : Cursor) : Prop where
  passes : Passes c gap c₁
  trivia : Trivia (c₁.rest = []) gap
  written : Passes c₁ (t.kind.written t.lexeme) c'
  line : t.line = c₁.line
  span : t.span = ⟨c₁.offset, c'.offset⟩
  eof_iff : t.kind = .eof ↔ c₁.rest = []
  nonempty : t.kind ≠ .eof → t.kind.written t.lexeme ≠ []

/-- What is read is a token behind trivia. -/
theorem reads_of_next (h : c.next = (.ok t, c')) : ∃ gap c₁, Reads c gap c₁ t c' := by
  rw [next] at h
  split at h
  · cases h
  · next c₁ hreached =>
    obtain ⟨gap, hpasses, hskips⟩ := skipped_of_reached hreached
    by_cases hnil : c₁.rest = []
    · obtain ⟨rfl, rfl⟩ := readToken_of_nil h hnil
      exact ⟨gap, _, hpasses, hskips, .refl _, rfl, rfl, iff_of_true rfl hnil, fun h => absurd rfl h⟩
    · obtain ⟨taken, hrest, hspelled, hpast, hline, hspan⟩ := spelled_of_readToken h hnil
      obtain rfl := hspelled.eq_written
      exact ⟨gap, c₁, hpasses, hskips, ⟨hrest, hpast⟩, hline, hspan,
        iff_of_false hspelled.kind_ne_eof hnil, fun _ => List.length_pos_iff.mp hspelled.length_pos⟩

namespace Reads

variable {gap : List Char} {c₁ : Cursor}

/-- A token starts behind the gap. -/
theorem start (h : Reads c gap c₁ t c') : t.span.start = c.offset + byteLength gap := by
  rw [h.span, h.passes.offset_eq]

/-- A token ends where the cursor stands behind it. -/
theorem stop (h : Reads c gap c₁ t c') : t.span.stop = c'.offset := by
  rw [h.span]

/-- Its end is not in front of its start. -/
theorem start_le_stop (h : Reads c gap c₁ t c') : t.span.start ≤ t.span.stop := by
  rw [h.span, h.written.offset_eq]
  exact Nat.le_add_right _ _

/-- It is not empty, unless it is the end token. -/
theorem start_lt_stop (h : Reads c gap c₁ t c') (ht : t.kind ≠ .eof) : t.span.start < t.span.stop := by
  rw [h.span, h.written.offset_eq]
  have hpos := byteLength_pos (h.nonempty ht)
  exact Nat.lt_add_of_pos_right hpos

/-- The gap and the token are all that was passed. -/
theorem passes_all (h : Reads c gap c₁ t c') : Passes c (gap ++ t.kind.written t.lexeme) c' :=
  h.passes.trans h.written

end Reads

/-! ## Runs -/

/-- From the place on, the tokens are read one after another, up to the end of the text. -/
inductive Laid : Cursor → List Token → Prop where
  | last {c gap c₁ t c'} (h : Reads c gap c₁ t c') (ht : t.kind = .eof) : Laid c [t]
  | token {c gap c₁ t c' ts} (h : Reads c gap c₁ t c') (ht : t.kind ≠ .eof) (hrest : Laid c' ts) :
      Laid c (t :: ts)

/-- Results without a fault begin with a token if the first one is no fault. -/
theorem firstFault_cons {rs : List (Except LexError Token)} (h : firstFault (.ok t :: rs) = .ok ts) :
    ∃ us, firstFault rs = .ok us ∧ ts = t :: us := by
  rw [firstFault] at h
  cases hrs : firstFault rs with
  | error e => rw [hrs] at h; cases h
  | ok us => rw [hrs] at h; cases h; exact ⟨us, rfl, rfl⟩

/-- A run without a fault reads to the end of the text. -/
theorem laid_of_results {n : Nat} (h : firstFault (results n c) = .ok ts) (hn : c.rest.length < n) :
    Laid c ts := by
  induction n generalizing c ts with
  | zero => exact absurd hn (Nat.not_lt_zero _)
  | succ n ih =>
    rw [results] at h
    split at h
    · next t c' hnext =>
      obtain ⟨gap, c₁, hreads⟩ := reads_of_next hnext
      split at h
      · next ht =>
        cases h
        exact .last hreads ht
      · next ht =>
        obtain ⟨us, hus, rfl⟩ := firstFault_cons h
        have hlength := length_lt_of_next hnext ht
        exact .token hreads ht (ih hus (by omega))
    · cases h

/-- The end token is the last one and stands behind everything. -/
theorem Laid.exists_eof (h : Laid c ts) : ∃ us e, ts = us ++ [e] ∧ (∀ t ∈ us, t.kind ≠ .eof) ∧
    e.kind = .eof ∧ e.span = ⟨c.offset + byteLength c.rest, c.offset + byteLength c.rest⟩ := by
  induction h with
  | @last c gap c₁ t c' h ht =>
    have hnil : c₁.rest = [] := h.eof_iff.mp ht
    have hwritten : t.kind.written t.lexeme = [] := by
      have hrest := h.written.rest
      rw [hnil] at hrest
      exact (List.append_eq_nil_iff.mp hrest.symm).1
    have hgap : c.rest = gap := by rw [h.passes.rest, hnil, List.append_nil]
    refine ⟨[], t, rfl, nofun, ht, ?_⟩
    rw [h.span, h.written.offset_eq, hwritten, h.passes.offset_eq, hgap]
    rfl
  | @token c gap c₁ t c' ts h ht _ ih =>
    obtain ⟨us, e, rfl, hus, he, hspan⟩ := ih
    refine ⟨t :: us, e, rfl, List.forall_mem_cons.mpr ⟨ht, hus⟩, he, ?_⟩
    rw [hspan, h.passes_all.offset_eq, h.passes_all.rest, byteLength_append _ c'.rest, Nat.add_assoc]

/-- No token of a run starts before the run. -/
theorem Laid.offset_le (h : Laid c ts) : ∀ t ∈ ts, c.offset ≤ t.span.start := by
  induction h with
  | last h ht =>
    refine List.forall_mem_singleton.mpr ?_
    rw [h.start]
    exact Nat.le_add_right _ _
  | token h ht _ ih =>
    have hstart := h.start
    have hstop := h.stop
    have hle := h.start_le_stop
    refine List.forall_mem_cons.mpr ⟨by omega, fun u hu => ?_⟩
    have := ih u hu
    omega

/-- Tokens that are laid out are in order and do not overlap. -/
theorem Laid.pairwise (h : Laid c ts) : ts.Pairwise fun t u => t.span.stop ≤ u.span.start := by
  induction h with
  | last h ht => exact List.pairwise_singleton _ _
  | token h ht hrest ih =>
    refine .cons (fun u hu => ?_) ih
    rw [h.stop]
    exact hrest.offset_le u hu

/-- No two tokens start at one place. -/
theorem Laid.pairwise_start (h : Laid c ts) : ts.Pairwise fun t u => t.span.start < u.span.start := by
  induction h with
  | last h ht => exact List.pairwise_singleton _ _
  | token h ht hrest ih =>
    refine .cons (fun u hu => ?_) ih
    have hstop := hrest.offset_le u hu
    rw [← h.stop] at hstop
    exact Nat.lt_of_lt_of_le (h.start_lt_stop ht) hstop

/-- Each token of a run was read at a place of the run. -/
theorem Laid.exists_reads (h : Laid c ts) (ht : t ∈ ts) :
    ∃ before c₀ gap c₁ c', Passes c before c₀ ∧ Reads c₀ gap c₁ t c' := by
  induction h with
  | last h =>
    obtain rfl := List.mem_singleton.mp ht
    exact ⟨[], _, _, _, _, .refl _, h⟩
  | token h _ _ ih =>
    rcases List.mem_cons.mp ht with rfl | ht
    · exact ⟨[], _, _, _, _, .refl _, h⟩
    · obtain ⟨before, c₀, gap, c₁, c', hbefore, hreads⟩ := ih ht
      exact ⟨_, c₀, gap, c₁, c', h.passes_all.trans hbefore, hreads⟩

/-- Each gap of a run was skipped at a place of the run. -/
theorem Laid.exists_trivia {s : Span} (h : Laid c ts) (hs : s ∈ Token.gapsFrom c.offset ts) :
    ∃ before c₀ gap c₁, Passes c before c₀ ∧ Passes c₀ gap c₁ ∧ s = ⟨c₀.offset, c₁.offset⟩ ∧
      Trivia (c₁.rest = []) gap := by
  induction h with
  | last h =>
    obtain rfl := List.mem_singleton.mp hs
    exact ⟨[], _, _, _, .refl _, h.passes, by rw [h.span], h.trivia⟩
  | token h _ _ ih =>
    rcases List.mem_cons.mp hs with rfl | hs
    · exact ⟨[], _, _, _, .refl _, h.passes, by rw [h.span], h.trivia⟩
    · rw [h.stop] at hs
      obtain ⟨before, c₀, gap, c₁, hbefore, hgap⟩ := ih hs
      exact ⟨_, c₀, gap, c₁, h.passes_all.trans hbefore, hgap⟩

/-! ## Regions -/

/-- The region between two places holds what stands between them. -/
theorem holds_of_passes {before text : List Char} (h : Passes (.ofString source) before c)
    (h' : Passes c text c') :
    Span.Holds ⟨c.offset, c'.offset⟩ source (String.ofList before) (String.ofList text) := by
  have hall := h.trans h'
  refine ⟨String.ofList c'.rest, ?_, ?_⟩
  · rw [← String.ofList_append, ← String.ofList_append, ← hall.rest]
    exact String.ofList_toList.symm
  · rw [← String.ofList_append, ← byteLength_ofList, ← byteLength_ofList, h.offset_eq, hall.offset_eq]
    simp [ofString]

/-- Where nothing is left the cursor stands at the end of the text. -/
theorem offset_of_rest_eq_nil {before : List Char} (h : Passes (.ofString source) before c)
    (hnil : c.rest = []) : c.offset = source.utf8ByteSize := by
  have hrest := h.rest
  rw [hnil, List.append_nil] at hrest
  rw [h.offset_eq, ← hrest, byteLength_ofList]
  simp [ofString]

end Cursor

/-- **The tokens of a text without a fault account for every byte of it.** -/
theorem tokens_lossless {source : String} {ts : List Token} (h : tokens source = .ok ts) :
    Lossless source ts := by
  have hlaid : Cursor.Laid (.ofString source) ts :=
    Cursor.laid_of_results h (Nat.lt_succ_self _)
  refine ⟨?_, hlaid.pairwise, ?_, ?_, ?_⟩
  · obtain ⟨us, e, rfl, hus, he, hspan⟩ := hlaid.exists_eof
    refine ⟨us, e, rfl, hus, he, ?_⟩
    rw [hspan, byteLength_ofList]
    simp [Cursor.ofString]
  · intro t ht hkind
    obtain ⟨_, _, _, _, _, -, hreads⟩ := hlaid.exists_reads ht
    exact hreads.start_lt_stop hkind
  · intro t ht
    obtain ⟨before, c₀, gap, c₁, c', hbefore, hreads⟩ := hlaid.exists_reads ht
    have hstart := hbefore.trans hreads.passes
    refine ⟨_, hreads.span ▸ Cursor.holds_of_passes hstart hreads.written, ?_⟩
    rw [hreads.line, hstart.line_eq, String.toList_ofList]
    rfl
  · intro gap hgap
    obtain ⟨before, c₀, text, c₁, hbefore, hpasses, rfl, htrivia⟩ := hlaid.exists_trivia hgap
    refine ⟨_, _, Cursor.holds_of_passes hbefore hpasses, ?_⟩
    rw [String.toList_ofList]
    exact htrivia.imp (Cursor.offset_of_rest_eq_nil (hbefore.trans hpasses))

/-- A string over two lines with a letter of two bytes, between comments of both sorts. -/
theorem tokens_lossless_twoLines :
    Lossless "/* * */\"é\n\" x# y"
      [⟨.string, "é\n", 1, ⟨7, 12⟩⟩, ⟨.identifier, "x", 2, ⟨13, 14⟩⟩, ⟨.eof, "", 2, ⟨17, 17⟩⟩] :=
  tokens_lossless rfl

end ParLang
