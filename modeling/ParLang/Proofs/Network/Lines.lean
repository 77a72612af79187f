import Mathlib.Data.List.Basic
import ParLang.World.Network

/-!
# Lines on a connection

A line is some bytes and one line feed at their end (`IsLine`). A text without a line feed makes a line
of the bytes that encode it. What a connection delivers and a unit reads ahead is cut at line feeds
only, so a line arrives whole however the bytes come.
-/

namespace ParLang

/-- The bytes of one line with its end. -/
def IsLine (bytes : List UInt8) : Prop :=
  ∃ front, newline ∉ front ∧ bytes = front ++ [newline]

/-- The bytes of a text. -/
def bytesOf (s : String) : List UInt8 :=
  s.toUTF8.toList

/-- What is sent for a message. -/
def lineOf (message : String) : String :=
  message ++ "\n"

/-! ## Texts as bytes -/

/-- The bytes of a text as a list. -/
theorem ByteArray.toList_eq (b : ByteArray) : b.toList = b.data.toList := by
  have hloop : ∀ (n i : Nat) (acc : List UInt8), b.size - i = n →
      ByteArray.toList.loop b i acc = acc.reverse ++ b.data.toList.drop i := by
    intro n
    induction n with
    | zero =>
      intro i acc hn
      have hlength : b.data.toList.length ≤ i := by
        rw [Array.length_toList, ByteArray.size_data]
        omega
      rw [ByteArray.toList.loop, if_neg (by omega), List.drop_eq_nil_of_le hlength, List.append_nil]
    | succ n ih =>
      intro i acc hn
      have hi : i < b.size := by omega
      have hlength : i < b.data.toList.length := by rwa [Array.length_toList, ByteArray.size_data]
      have hget : b.get! i = b.data.toList[i] := getElem!_pos b.data i (by simpa using hi)
      rw [ByteArray.toList.loop, if_pos hi, ih (i + 1) _ (by omega), List.drop_eq_getElem_cons hlength,
        List.reverse_cons, List.append_assoc, hget]
      rfl
  exact hloop _ 0 [] rfl

/-- A text is written character by character. -/
theorem bytesOf_eq (s : String) : bytesOf s = s.toList.flatMap String.utf8EncodeChar := by
  rw [bytesOf, ByteArray.toList_eq, String.toUTF8, ← String.utf8Encode_toList, List.utf8Encode,
    List.toList_data_toByteArray]

/-- Two texts in sequence are written in sequence. -/
theorem bytesOf_append (s s' : String) : bytesOf (s ++ s') = bytesOf s ++ bytesOf s' := by
  rw [bytesOf_eq, bytesOf_eq, bytesOf_eq, String.toList_append, List.flatMap_append]

/-- No other character is written with the byte of a line feed. So the byte ends lines and nothing else. -/
theorem newline_not_mem_utf8EncodeChar {c : Char} (hc : c ≠ '\n') :
    newline ∉ String.utf8EncodeChar c := by
  have hval : c.val.toNat ≠ 10 := fun h => hc (Char.ext (UInt32.toNat_inj.mp h))
  -- A byte is no line feed if it is another number below 256; those of longer encodings are at least 128.
  have hbyte : ∀ n : Nat, n < 256 → n ≠ 10 → newline ≠ UInt8.ofNat n := by
    intro n hn hne heq
    have htoNat : newline.toNat = n % 256 := by simpa using congrArg UInt8.toNat heq
    rw [show newline.toNat = 10 from rfl] at htoNat
    omega
  unfold String.utf8EncodeChar
  dsimp only
  split
  · simpa using hbyte _ (by omega) hval
  · split
    · simp only [List.mem_cons, List.not_mem_nil, or_false, not_or]
      exact ⟨hbyte _ (by omega) (by omega), hbyte _ (by omega) (by omega)⟩
    · split
      · simp only [List.mem_cons, List.not_mem_nil, or_false, not_or]
        exact ⟨hbyte _ (by omega) (by omega), hbyte _ (by omega) (by omega),
          hbyte _ (by omega) (by omega)⟩
      · simp only [List.mem_cons, List.not_mem_nil, or_false, not_or]
        exact ⟨hbyte _ (by omega) (by omega), hbyte _ (by omega) (by omega),
          hbyte _ (by omega) (by omega), hbyte _ (by omega) (by omega)⟩

/-- A line feed is one byte. -/
theorem bytesOf_newline : bytesOf "\n" = [newline] := by
  rw [bytesOf_eq]
  decide

/-- The line of a message is the message and a line feed. -/
theorem bytesOf_lineOf (message : String) : bytesOf (lineOf message) = bytesOf message ++ [newline] := by
  rw [lineOf, bytesOf_append, bytesOf_newline]

/-- Only the line feed itself is encoded with the byte that ends a line. -/
theorem newline_notMem_bytesOf {s : String} (h : '\n' ∉ s.toList) : newline ∉ bytesOf s := by
  rw [bytesOf_eq, List.mem_flatMap]
  rintro ⟨c, hc, hbyte⟩
  exact newline_not_mem_utf8EncodeChar (fun heq => h (heq ▸ hc)) hbyte

/-- A text without a line feed is written as one line. -/
theorem isLine_bytesOf {s : String} (h : '\n' ∉ s.toList) : IsLine (bytesOf (lineOf s)) :=
  ⟨bytesOf s, newline_notMem_bytesOf h, bytesOf_lineOf s⟩

/-! ## Sending a line -/

namespace Connection

variable {c : Connection}

/-- Bytes without a line feed wait for the end of their line. -/
theorem deliver_of_notMem {bytes : List UInt8} (hup : c.hungUp = false) (hbytes : newline ∉ bytes) :
    c.deliver bytes = { c with unfinished := bytes.reverse ++ c.unfinished } := by
  induction bytes generalizing c with
  | nil => rfl
  | cons b rest ih =>
    rw [List.mem_cons, not_or] at hbytes
    obtain ⟨hb, hrest⟩ := hbytes
    rw [deliver, if_neg (by simp [hup]), if_neg (Ne.symm hb),
      ih (c := { c with unfinished := b :: c.unfinished }) hup hrest]
    simp

/-- A line feed ends the line. -/
theorem deliver_newline (hup : c.hungUp = false) : c.deliver [newline] = c.completeLine := by
  rw [deliver, if_neg (by simp [hup]), if_pos rfl, deliver]

end Connection

/-! ## Reading a line -/

/-- A line is taken whole. -/
theorem takeLine_line {line : List UInt8} (h : IsLine line) : takeLine line = (line, []) := by
  obtain ⟨front, hfront, rfl⟩ := h
  induction front with
  | nil => rfl
  | cons b front ih =>
    rw [List.mem_cons, not_or] at hfront
    obtain ⟨hb, hfront⟩ := hfront
    rw [List.cons_append, takeLine, if_neg (Ne.symm hb), ih hfront]

namespace Network

/-- Of a line that is partly read ahead, the rest is read. -/
theorem fill_line {n : Nat} {buffer inbound line : List UInt8} (hline : IsLine line)
    (heq : buffer ++ inbound = line) (hn : inbound.length < n) : fill n buffer inbound = (line, []) := by
  induction n generalizing buffer inbound with
  | zero => omega
  | succ n ih =>
    rw [fill]
    cases inbound with
    | nil =>
      rw [List.append_nil] at heq
      simp [heq]
    | cons b rest =>
      have hbuffer : newline ∉ buffer := by
        obtain ⟨front, hfront, rfl⟩ := hline
        have hlength := congrArg List.length heq
        simp only [List.length_append, List.length_cons, List.length_nil] at hlength
        have hstart : buffer <+: front := List.prefix_of_prefix_length_le
          ⟨_, heq⟩ (List.prefix_append front [newline]) (by omega)
        exact fun hmem => hfront (hstart.subset hmem)
      have hgo : (buffer.contains newline || (b :: rest).isEmpty) = false := by simpa using hbuffer
      rw [hgo, if_neg (by simp)]
      refine ih ?_ ?_
      · rw [List.append_assoc, List.take_append_drop, heq]
      · rw [List.length_drop, readAhead]
        rw [List.length_cons] at hn ⊢
        omega

end Network

end ParLang
