import ParLang.Diagnostic
import ParLang.Proofs.Printing.RoundTrip
import ParLang.Proofs.Program.Diagnostics

/-!
# What formatting keeps

The text of a program that was read reads as the program as it is written. It follows that formatting a
formatted text changes nothing (`layout_stable`), whatever the literals are, and that the formatted text
means what the source text meant if the literals are finite (`meaning_kept`). An infinite literal is
written as a name, so the formatted text of `boundlessSource` is not accepted
(`boundlessSource_rejected`).
-/

namespace ParLang

namespace Printing

open Grammar

/-! ## The layout -/

/-- **Formatting is idempotent**: the formatted text reads, and formatting what was read gives the same
text. -/
theorem layout_stable (source : String) (p : Program) (h : parse source = .ok p) :
    ∃ q, parse p.print = .ok q ∧ q.print = p.print := by
  obtain ⟨q, hq, hlines⟩ := parse_print_asWritten h
  refine ⟨q, hq, ?_⟩
  calc
    q.print = q.unlined.print := q.print_unlined.symm
    _ = p.asWritten.unlined.print := by rw [hlines]
    _ = p.asWritten.print := p.asWritten.print_unlined
    _ = p.print := p.print_asWritten

/-- The digits of ten to the power of 309, which is above every double. -/
def boundlessDigits : List Char :=
  '1' :: List.replicate 309 '0'

/-- A declaration whose literal overflows. -/
def boundlessSource : String :=
  String.ofList ("x: number = ".toList ++ boundlessDigits)

/-- The tokens of the declaration. -/
def boundlessTokens : List Token :=
  [⟨.identifier, "x", 1, ⟨0, 1⟩⟩, ⟨.colon, ":", 1, ⟨1, 2⟩⟩, ⟨.typeName, "number", 1, ⟨3, 9⟩⟩,
    ⟨.assign, "=", 1, ⟨10, 11⟩⟩, ⟨.number, String.ofList boundlessDigits, 1, ⟨12, 322⟩⟩]

/-- What the declaration reads as. -/
def boundlessProgram : Program :=
  ⟨[.declare 1 "x" (.named "number") (.number 1 (Number.infinity false))]⟩

/-- The scan of the source gives its tokens, and the number is one of them. -/
theorem scan_boundlessSource :
    scan boundlessSource = (boundlessTokens ++ [(⟨.eof, "", 1, ⟨322, 322⟩⟩ : Token)]).map .ok := by
  have htext : boundlessSource.toList = "x: number = ".toList ++ boundlessDigits :=
    String.toList_ofList
  rw [scan, Cursor.ofString, htext]
  decide +kernel

/-- So many digits are read as infinity. -/
theorem readDecimal?_boundlessDigits :
    Number.readDecimal? (String.ofList boundlessDigits) = some (Number.infinity false) := by
  have hdigits : Cursor.IsDigits (String.ofList boundlessDigits).toList := by
    rw [String.toList_ofList]
    refine ⟨by decide, fun d hd => ?_⟩
    rcases List.mem_cons.mp hd with rfl | hzero
    · decide
    · rw [List.eq_of_mem_replicate hzero]
      decide
  rw [Number.readDecimal?_digits hdigits, String.toList_ofList]
  decide +kernel

/-- The tokens derive a declaration of infinity. -/
theorem derives_boundlessTokens : Derives boundlessTokens boundlessProgram := by
  have hvalue : Expression [boundlessTokens[4]] (.number 1 (Number.infinity false)) :=
    .tighter (.tighter (.tighter (.tighter (.tighter (.tighter
      (.unary (.primary (.number rfl readDecimal?_boundlessDigits))))))))
  have htype : Annotation [boundlessTokens[2]] (.named "number") := .named rfl
  have hdeclare : Simple boundlessTokens (.declare 1 "x" (.named "number") _) :=
    .declare rfl rfl htype rfl hvalue
  have hnone : Statements [] [] := .none
  exact .cons (.simple hdeclare) hnone

/-- The source is read as that declaration. -/
theorem parse_boundlessSource : parse boundlessSource = .ok boundlessProgram := by
  rw [parse, scan_boundlessSource]
  exact derives_boundlessTokens.parse (by decide)

/-- A number too large for a double is laid out as a name, and yet the layout is stable. -/
theorem layout_stable_boundlessSource :
    parse boundlessSource = .ok boundlessProgram ∧ boundlessProgram.print = "x: number = inf\n" ∧
      ∃ q, parse boundlessProgram.print = .ok q ∧ q.print = boundlessProgram.print :=
  ⟨parse_boundlessSource, rfl, layout_stable _ _ parse_boundlessSource⟩

/-! ## The meaning -/

/-- Renaming failures does not touch what succeeds. -/
theorem mapError_eq_ok {α ε ε' : Type} {x : Except ε α} {f : ε → ε'} {a : α} :
    x.mapError f = .ok a ↔ x = .ok a := by
  cases x <;> simp [Except.mapError]

/-- A source compiles if it can be read and its program is accepted. -/
theorem compile_eq_ok_iff {source : String} {p : Program} :
    compile source = .ok p ↔ parse source = .ok p ∧ p.check = .ok () := by
  rw [compile]
  cases parse source with
  | error e => simp
  | ok p' =>
    constructor
    · intro h
      dsimp only at h
      cases hc : p'.check with
      | error e => rw [hc] at h; cases h
      | ok => rw [hc] at h; cases h; exact ⟨rfl, hc⟩
    · rintro ⟨hp, hc⟩
      obtain rfl := Except.ok.inj hp
      dsimp only
      rw [hc]

/-- **Formatting keeps the meaning** of a program whose number literals are finite: the formatted text is
accepted if and only if the source text is, is rejected for the same cause if it is not, and runs alike. -/
theorem meaning_kept (source : String) (p : Program) (h : parse source = .ok p)
    (hx : ∀ x ∈ p.literals, Number.isFinite x) :
    ∃ q, parse p.print = .ok q ∧
      (compile p.print = .ok q ↔ compile source = .ok p) ∧
      q.check.mapError (·.cause) = p.check.mapError (·.cause) ∧
      ∀ budget clock m turns w, q.observe budget clock m turns w = p.observe budget clock m turns w := by
  obtain ⟨q, hq, hlines⟩ := parse_print_asWritten h
  rw [Program.asWritten_of_finite hx] at hlines
  have hcheck : q.check.mapError (·.cause) = p.check.mapError (·.cause) := by
    rw [← q.check_unlined, hlines, p.check_unlined]
  have haccepted : q.check = .ok () ↔ p.check = .ok () := by
    rw [← mapError_eq_ok, hcheck, mapError_eq_ok]
  refine ⟨q, hq, ?_, hcheck, fun budget clock m turns w => ?_⟩
  · simp only [compile_eq_ok_iff, hq, h, haccepted, true_and]
  · rw [q.observe_eq_unlined, hlines, p.observe_eq_unlined]

/-- An accepted program on one line, with parentheses that are needed and some that are not. -/
def looseSource : String :=
  "x: number = (1 + 2.50) if (x > 1) \x7b print((x) - (1 - x)) \x7d"

/-- A source with blanks and parentheses to spare: its layout is another text with the same runs. -/
theorem meaning_kept_looseSource :
    ∃ p q, compile looseSource = .ok p ∧ p.print ≠ looseSource ∧ compile p.print = .ok q ∧
      ∀ budget clock m turns w,
        q.observe budget clock m turns w = p.observe budget clock m turns w := by
  have hloose : (compile looseSource).toOption.any
      (fun p => p.literals.all Number.isFinite && p.print != looseSource) = true := by
    decide +kernel
  cases hp : compile looseSource with
  | error e => rw [hp] at hloose; contradiction
  | ok p =>
    rw [hp] at hloose
    obtain ⟨hfinite, hprint⟩ := Bool.and_eq_true_iff.mp hloose
    obtain ⟨q, -, hcompile, -, hobserve⟩ :=
      meaning_kept looseSource p (compile_eq_ok_iff.mp hp).1 (List.all_eq_true.mp hfinite)
    exact ⟨p, q, rfl, bne_iff_ne.mp hprint, hcompile.mpr hp, hobserve⟩

/-- The declaration is accepted, and its formatted text is not: the literal has become a name that
nothing declares. -/
theorem boundlessSource_rejected :
    parse boundlessSource = .ok boundlessProgram ∧ compile boundlessSource = .ok boundlessProgram ∧
      ∀ q, compile boundlessProgram.print ≠ .ok q := by
  have hcheck : boundlessProgram.check = .ok () := rfl
  have hrejected : boundlessProgram.asWritten.check.isOk = false := rfl
  refine ⟨parse_boundlessSource, compile_eq_ok_iff.mpr ⟨parse_boundlessSource, hcheck⟩, fun q hq => ?_⟩
  obtain ⟨hparse, haccepted⟩ := compile_eq_ok_iff.mp hq
  obtain ⟨q', hq', hlines⟩ := parse_print_asWritten parse_boundlessSource
  obtain rfl := Except.ok.inj (hparse.symm.trans hq')
  have hwritten : boundlessProgram.asWritten.check = .ok () := by
    rw [← mapError_eq_ok, ← Program.check_unlined, ← hlines, Program.check_unlined, mapError_eq_ok]
    exact haccepted
  rw [hwritten] at hrejected
  contradiction

end Printing

end ParLang
