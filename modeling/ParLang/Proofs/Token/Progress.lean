import Mathlib.Logic.Function.Iterate
import ParLang.Proofs.Token.Joined
import ParLang.Proofs.Token.Places

/-!
# Reading goes on

A call of a lexer gives the end token, at the end of the text, or it moves on: what it gives has a region
that is not empty, and whatever is read later stands behind that region. `Cursor.Advances` says this of
one call, from whatever place the calls before have led to, faults included. So a lexer that is called
often enough comes to the end of its text and stays there (`lexer_recovers`), and going back to the start
makes it a new one.
-/

namespace ParLang

namespace Lexer

/-- The region of a token or a fault. -/
def regionOf : Except LexError Token → Span
  | .ok t => t.span
  | .error e => e.span

/-- The end token. -/
def IsEnd : Except LexError Token → Prop
  | .ok t => t.kind = .eof
  | .error _ => False

end Lexer

/-! ## One call -/

namespace Cursor

open Lexer

variable {c c' : Cursor} {t : Token} {e : LexError} {r : Except LexError Token} {cs : List Char}
  {offset line start : Nat} {state : TriviaState}

/-- A call at `c` gives `r`, whose region starts at `c` or later and ends at `c'`. -/
structure Advances (c : Cursor) (r : Except LexError Token) (c' : Cursor) : Prop where
  start : c.offset ≤ (regionOf r).start
  region : (regionOf r).start ≤ (regionOf r).stop
  stop : (regionOf r).stop = c'.offset
  nonempty : ¬ IsEnd r → (regionOf r).start < (regionOf r).stop

/-- A call does not go back. -/
theorem Advances.offset_le (h : Advances c r c') : c.offset ≤ c'.offset :=
  h.stop ▸ Nat.le_trans h.start h.region

/-- It goes on, unless it comes to the end. -/
theorem Advances.offset_lt (h : Advances c r c') (hr : ¬ IsEnd r) : c.offset < c'.offset :=
  h.stop ▸ Nat.lt_of_le_of_lt h.start (h.nonempty hr)

/-- A comment without an end has at least its opening mark. -/
theorem start_lt_of_skipTrivia (h : skipTrivia state cs offset line = .unclosed start c)
    (hstate : ∀ s, state = .blockComment s → s < offset) : start < c.offset := by
  fun_induction skipTrivia state cs offset line with
  | case1 | case5 | case6 => cases h
  | case2 rest offset line ih =>
    refine ih h ?_
    rintro s ⟨⟩
    omega
  | case3 _ _ _ _ ih | case4 _ _ _ _ _ _ _ ih | case7 _ _ _ ih | case8 _ _ _ _ _ ih
  | case10 _ _ _ _ ih => exact ih h (by simp)
  | case9 =>
    cases h
    exact hstate _ rfl
  | case11 s ch rest offset line _ ih =>
    refine ih h fun s' hs' => ?_
    have := hstate s' hs'
    omega

/-- The characters at fault are at least one. -/
theorem start_lt_stop_of_fault (h : c.next = (.error e, c')) : e.span.start < e.span.stop := by
  rw [next] at h
  split at h
  · next hunclosed =>
    cases h
    exact start_lt_of_skipTrivia hunclosed (by simp)
  · obtain ⟨-, text, hne, htext, hspan, -⟩ := fault_of_readToken h
    rw [hspan, htext.offset_eq]
    exact Nat.lt_add_of_pos_right (byteLength_pos hne)

/-- **A call moves on, or it is at the end.** -/
theorem advances_of_next (h : c.next = (r, c')) : Advances c r c' := by
  cases r with
  | ok t =>
    obtain ⟨gap, c₁, hreads⟩ := reads_of_next h
    exact ⟨hreads.start ▸ Nat.le_add_right _ _, hreads.start_le_stop, hreads.stop,
      hreads.start_lt_stop⟩
  | error e =>
    obtain ⟨gap, c₁, text, hgap, -, hspan, -⟩ := fault_of_next h
    have hlt := start_lt_stop_of_fault h
    refine ⟨?_, Nat.le_of_lt hlt, congrArg Span.stop hspan, fun _ => hlt⟩
    rw [regionOf, hspan, hgap.offset_eq]
    exact Nat.le_add_right _ _

/-- A call that does not come to the end takes at least one character. -/
theorem length_lt_of_advance (h : c.next = (r, c')) (hr : ¬ IsEnd r) :
    c'.rest.length < c.rest.length := by
  obtain ⟨text, htext⟩ := exists_passes_of_next h
  have hlt := (advances_of_next h).offset_lt hr
  have hne : text ≠ [] := by
    rintro rfl
    rw [htext.offset_eq] at hlt
    exact absurd hlt (Nat.lt_irrefl _)
  rw [htext.rest, List.length_append]
  exact Nat.lt_add_of_pos_left (List.length_pos_iff.mpr hne)

end Cursor

/-! ## Calls one after another -/

namespace Lexer

open Cursor

variable {source : String} {l : Lexer} {i j m n : Nat}

/-- What a lexer can be asked for. -/
inductive Call where
  | next
  | reset

/-- The lexer behind a call. -/
def after (l : Lexer) : Call → Lexer
  | .next => l.next.2
  | .reset => l.reset

/-- The lexer behind `n` further readings. -/
def skip (l : Lexer) (n : Nat) : Lexer :=
  (fun l => l.next.2)^[n] l

/-- What is read behind `n` further readings. -/
def reply (l : Lexer) (n : Nat) : Except LexError Token :=
  (l.skip n).next.1

/-- One call more is the first one and then the others. -/
theorem skip_succ (l : Lexer) (n : Nat) : l.skip (n + 1) = l.next.2.skip n :=
  Function.iterate_succ_apply _ _ _

/-- Calls in two groups. -/
theorem skip_add (l : Lexer) (n m : Nat) : l.skip (n + m) = (l.skip n).skip m := by
  rw [skip, Nat.add_comm, Function.iterate_add_apply]
  rfl

/-- Each call of a lexer advances its cursor. -/
theorem advances_next (l : Lexer) : Advances l.cursor l.next.1 l.next.2.cursor :=
  advances_of_next rfl

/-- Calls do not go back. -/
theorem offset_le_skip (l : Lexer) (n : Nat) : l.cursor.offset ≤ (l.skip n).cursor.offset := by
  induction n generalizing l with
  | zero => exact Nat.le_refl _
  | succ n ih =>
    rw [skip_succ]
    exact Nat.le_trans l.advances_next.offset_le (ih l.next.2)

/-- What is read later stands behind what is read before. -/
theorem stop_le_start (l : Lexer) (h : i < j) :
    (regionOf (l.reply i)).stop ≤ (regionOf (l.reply j)).start := by
  obtain ⟨k, rfl⟩ := Nat.exists_eq_add_of_lt h
  have hskip : l.skip (i + k + 1) = (l.skip i).next.2.skip k := by
    rw [Nat.add_assoc, skip_add, skip_succ]
  calc (regionOf (l.reply i)).stop
      = (l.skip i).next.2.cursor.offset := (l.skip i).advances_next.stop
    _ ≤ ((l.skip i).next.2.skip k).cursor.offset := offset_le_skip _ k
    _ = (l.skip (i + k + 1)).cursor.offset := by rw [hskip]
    _ ≤ (regionOf (l.reply (i + k + 1))).start := (l.skip (i + k + 1)).advances_next.start

/-- The end is reached by as many readings as there are characters to come. -/
theorem exists_isEnd (l : Lexer) : ∃ n ≤ l.cursor.rest.length, IsEnd (l.reply n) := by
  induction h : l.cursor.rest.length using Nat.strongRecOn generalizing l with
  | _ length ih =>
    by_cases hend : IsEnd l.next.1
    · exact ⟨0, Nat.zero_le _, hend⟩
    · have hlt : l.next.2.cursor.rest.length < length := h ▸ length_lt_of_advance rfl hend
      obtain ⟨n, hn, hreply⟩ := ih _ hlt l.next.2 rfl
      refine ⟨n + 1, by omega, ?_⟩
      rwa [reply, skip_succ]

/-- The end token is read at the end of the text, where it is read again. -/
theorem next_of_isEnd (l : Lexer) (h : IsEnd l.next.1) :
    l.next.2.cursor.rest = [] ∧ l.next.1 = l.next.2.next.1 := by
  rcases hnext : l.cursor.next with ⟨r, c⟩
  have hr : l.next = (r, { l with cursor := c }) := by rw [next, hnext]
  rw [hr] at h ⊢
  cases r with
  | error e => cases h
  | ok t =>
    obtain ⟨hnil, hsame⟩ := next_of_eof hnext h
    have hfirst : .ok t = c.next.1 := congrArg Prod.fst (hnext.symm.trans hsame)
    exact ⟨hnil, hfirst⟩

/-! ## A lexer of a text -/

/-- The token at the end of a text. -/
def endToken (source : String) : Token :=
  ⟨.eof, "", 1 + source.toList.count '\n', ⟨source.utf8ByteSize, source.utf8ByteSize⟩⟩

/-- The lexer is at a place of the text. -/
structure Reading (source : String) (l : Lexer) : Prop where
  source_eq : l.source = source
  passes : ∃ before, Passes (.ofString source) before l.cursor

namespace Reading

/-- A new lexer reads its text from the start. -/
theorem new (source : String) : Reading source (Lexer.new source) :=
  ⟨rfl, [], .refl _⟩

/-- Reset, a lexer of a text is a new one. -/
theorem reset_eq (h : Reading source l) : l.reset = Lexer.new source := by
  rw [reset, h.source_eq]

/-- A call reads on in the text. -/
theorem next (h : Reading source l) : Reading source l.next.2 := by
  obtain ⟨before, hbefore⟩ := h.passes
  obtain ⟨text, htext⟩ := exists_passes_of_next (c := l.cursor) rfl
  exact ⟨h.source_eq, _, hbefore.trans htext⟩

/-- So does every other use of the lexer. -/
theorem after (h : Reading source l) (call : Call) : Reading source (l.after call) := by
  cases call with
  | next => exact h.next
  | reset =>
    rw [Lexer.after, h.reset_eq]
    exact .new source

/-- **Whatever is called**, the lexer is at a place of its text. -/
theorem foldl_after (h : Reading source l) (calls : List Call) :
    Reading source (calls.foldl Lexer.after l) := by
  induction calls generalizing l with
  | nil => exact h
  | cons call calls ih => exact ih (h.after call)

/-- So do calls in sequence. -/
theorem skip (h : Reading source l) (n : Nat) : Reading source (l.skip n) := by
  induction n generalizing l with
  | zero => exact h
  | succ n ih =>
    rw [skip_succ]
    exact ih h.next

/-- What is left is no longer than the text. -/
theorem length_le (h : Reading source l) : l.cursor.rest.length ≤ source.length := by
  obtain ⟨before, hbefore⟩ := h.passes
  have hlength := congrArg List.length hbefore.rest
  rw [List.length_append] at hlength
  have hsource : (Cursor.ofString source).rest.length = source.length := String.length_toList
  omega

/-- At the end of its text a lexer stays where it is. -/
theorem next_of_nil (h : Reading source l) (hnil : l.cursor.rest = []) :
    l.next = (.ok (endToken source), l) := by
  obtain ⟨before, hbefore⟩ := h.passes
  have hall : source.toList = before := by
    have hrest := hbefore.rest
    rwa [hnil, List.append_nil] at hrest
  have htoken : l.cursor.token .eof [] = endToken source := by
    rw [token, offset_of_rest_eq_nil hbefore hnil, hbefore.line_eq, ← hall]
    rfl
  rw [Lexer.next, Cursor.next_of_nil hnil, htoken]

/-- At the end every call stays there. -/
theorem skip_of_nil (h : Reading source l) (hnil : l.cursor.rest = []) (n : Nat) : l.skip n = l := by
  induction n with
  | zero => rfl
  | succ n ih => rw [skip_succ, h.next_of_nil hnil, ih]

/-- Behind the end token there is nothing but the end token. -/
theorem reply_of_isEnd (h : Reading source l) (hend : IsEnd l.next.1) (n : Nat) :
    l.reply n = .ok (endToken source) := by
  obtain ⟨hnil, hsame⟩ := l.next_of_isEnd hend
  have hstay := h.next.next_of_nil hnil
  cases n with
  | zero => exact hsame.trans (congrArg Prod.fst hstay)
  | succ n => rw [reply, skip_succ, h.next.skip_of_nil hnil, hstay]

end Reading

/-- The lexer goes on reading its text, whatever it has read. -/
structure Recovers (source : String) (l : Lexer) : Prop where
  /-- A call gives the end token or moves on. -/
  progress : IsEnd l.next.1 ∨ l.cursor.offset < l.next.2.cursor.offset
  /-- What is read has a region. -/
  regions : ∀ n, (regionOf (l.reply n)).start ≤ (regionOf (l.reply n)).stop
  /-- The regions are in order and disjoint. -/
  ordered : ∀ i j, i < j → (regionOf (l.reply i)).stop ≤ (regionOf (l.reply j)).start
  /-- The end token comes, at the latest behind as many readings as the text has characters. -/
  ends : ∃ n ≤ source.length, IsEnd (l.reply n)
  /-- Then it is read again and again. -/
  stays : ∀ n, IsEnd (l.reply n) → ∀ m, n ≤ m → l.reply m = .ok (endToken source)
  /-- From the start again, the same is read as by a new lexer. -/
  fresh : ∀ n, l.reset.reply n = (Lexer.new source).reply n

end Lexer

open Lexer in
/-- **A lexer always makes progress and recovers**, behind any calls: tokens, faults and returns to the
start. -/
theorem lexer_recovers (source : String) (calls : List Lexer.Call) :
    Recovers source (calls.foldl after (.new source)) := by
  have hreading := (Reading.new source).foldl_after calls
  generalize calls.foldl after (.new source) = l at hreading
  refine ⟨?_, fun n => (l.skip n).advances_next.region, fun _ _ => l.stop_le_start, ?_, ?_, ?_⟩
  · rw [or_iff_not_imp_left]
    exact l.advances_next.offset_lt
  · obtain ⟨n, hn, hend⟩ := l.exists_isEnd
    exact ⟨n, Nat.le_trans hn hreading.length_le, hend⟩
  · intro n hend m hm
    obtain ⟨k, rfl⟩ := Nat.exists_eq_add_of_le hm
    rw [reply, skip_add]
    exact (hreading.skip n).reply_of_isEnd hend k
  · intro n
    rw [hreading.reset_eq]

/-- A lone `&` and a comment without an end are passed over. -/
example :
    (List.range 4).map (Lexer.new "& /*").reply =
      [.error ⟨.unexpected '&', 1, ⟨0, 1⟩⟩, .error ⟨.unterminatedComment, 1, ⟨2, 4⟩⟩,
        .ok (Lexer.endToken "& /*"), .ok (Lexer.endToken "& /*")] := by
  rfl

end ParLang
