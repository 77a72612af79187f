import ParLang.Proofs.Program.Complaints
import ParLang.Proofs.Token.Joined

/-!
# Programs one behind the other

Statements need nothing between them but a line break: two sources that are read can be put one behind
the other, and what is read is the statements of the first and the statements of the second further down
(`parse_append_newline`).
-/

namespace ParLang

variable {first second : String} {p q : Program}

/-- **Sources with a line break between them are read one after the other.** The lines of the second are
those behind the first, and those of the first stay. -/
theorem parse_append_newline (hfirst : parse first = .ok p) (hsecond : parse second = .ok q) :
    parse (first ++ "\n" ++ second) =
      .ok ⟨p.statements ++ (q.relined (· + (first.toList.count '\n' + 1))).statements⟩ := by
  obtain ⟨ts, _, hscan₁, hderives₁⟩ := scan_of_parse hfirst
  obtain ⟨us, _, hscan₂, hderives₂⟩ := scan_of_parse hsecond
  obtain ⟨e, he, hscan⟩ := scan_append_newline hscan₁ hscan₂
  have hmoved : Token.moved (first.utf8ByteSize + 1) (first.toList.count '\n' + 1) =
      Token.relined (· + (first.toList.count '\n' + 1))
        fun s => ⟨s.start + (first.utf8ByteSize + 1), s.stop + (first.utf8ByteSize + 1)⟩ := rfl
  rw [hmoved] at hscan
  rw [parse, hscan]
  exact (hderives₁.append hderives₂.relined).parse (List.forall_mem_singleton.mpr he)

/-- A source that can be read has a program. -/
theorem exists_parse_of_isSome {source : String} (h : (parse source).toOption.isSome = true) :
    ∃ p, parse source = .ok p := by
  cases hp : parse source with
  | ok p => exact ⟨p, rfl⟩
  | error e => rw [hp] at h; contradiction

/-- A source that ends in a comment. -/
def commentedSource : String :=
  "if (b) \x7b\x7d\na = b # é"

/-- A source that starts with a comment over two lines. -/
def leadingSource : String :=
  "/*\n*/ c[0] = f(\n1)"

/-- A source that ends in a comment, with another one behind it: the program of the second starts two lines
further down. -/
theorem parse_append_newline_commentedSource :
    ∃ p q, parse commentedSource = .ok p ∧ parse leadingSource = .ok q ∧
      parse (commentedSource ++ "\n" ++ leadingSource) =
        .ok ⟨p.statements ++ (q.relined (· + 2)).statements⟩ := by
  have hfirst : (parse commentedSource).toOption.isSome = true := by decide +kernel
  have hsecond : (parse leadingSource).toOption.isSome = true := by decide +kernel
  obtain ⟨p, hp⟩ := exists_parse_of_isSome hfirst
  obtain ⟨q, hq⟩ := exists_parse_of_isSome hsecond
  have hcount : commentedSource.toList.count '\n' = 1 := by decide +kernel
  have hjoined := parse_append_newline hp hq
  rw [hcount] at hjoined
  exact ⟨p, q, hp, hq, hjoined⟩

end ParLang
