import ParLang.Proofs.Resolution.Interpreter
import ParLang.Proofs.Soundness.Store

/-!
# Names mean in a run what they mean to the checker

A program that is accepted is followed by its traced run, which gives up where a call or a name is
resolved to something else than by the checker (`Program.follows`). So an identifier stands for a binding
of the declaration that the checker found, if no function overwrites another one and no scope declares a
name behind a function in it that takes the name from outside (`Program.names_resolved`). Otherwise it
may stand for a later one (`lateNamesake_captured`).
-/

namespace ParLang

variable {p : Program}

/-- What a run relies on in a program that is accepted. -/
theorem Program.scopedAll {w : Watch} (hcheck : p.check = .ok ()) (hun : p.Unclobbered)
    (hcapture : w = .names → p.CaptureFree) :
    ScopedAll (p.survey w hun) [] .initial [] 0 p.statements := by
  refine ⟨⟨_, Prod.ext hcheck rfl⟩, hcapture, fun cl hcl => ⟨hcl, fun h => ?_⟩⟩
  cases h

/-- A traced run of the program follows its run. -/
theorem Program.follows {w : Watch} (hcheck : p.check = .ok ()) (hun : p.Unclobbered)
    (hcapture : w = .names → p.CaptureFree) (budget : Nat) :
    Follows (p.survey w hun) (fun _ _ _ => True) (fun _ => False)
      (Traced.runProgram w budget p.statements .initial .initial)
      (Exec.runProgram budget p.statements .initial) := by
  have hat : Trace.initial.At .initial .new := ⟨rfl, fun _ _ h => nomatch h⟩
  have hmirrors := runProgram_mirrors (m := .initial) budget hat
    (p.scopedAll hcheck hun hcapture) (.initial _ _)
  exact (hmirrors (.initial _)).imp (fun _ _ _ _ => trivial) fun _ => id

/-- What a unit prints that runs to its end without a failure. -/
def Process.printed? (p : Process (UnitResult × Machine)) : Option ByteArray :=
  match Task.runSteps 100 (.running 0 p) .deserted with
  | .finished (.ok ()) _ w => some w.output.written
  | _ => none

/-- **An identifier is resolved as by the checker**, each time it is evaluated or assigned to: the
traced run, which gives up at any other binding, is the run. -/
theorem Program.names_resolved (hcheck : p.check = .ok ()) (hcapture : p.CaptureFree)
    (hun : p.Unclobbered) (budget : Nat) :
    Traced.plain (Traced.runProgram .names budget p.statements) .initial .initial =
      Exec.runProgram budget p.statements .initial :=
  (p.follows hcheck hun (fun _ => hcapture) budget).plain_eq

/-- A variable of a block with the name of one that a function outside of the block takes. -/
def innerNamesake : Program where
  statements := [
    .declare 1 "x" (.named "string") (.text 1 "out"),
    .function ⟨2, "f", [⟨2, "y", .named "string", some (.ident 2 "x")⟩], .named "string",
      ⟨2, [.return 2 (.binary 2 .add (.ident 2 "y") (.ident 2 "x"))]⟩⟩,
    .block ⟨3, [
      .declare 4 "x" (.named "string") (.text 4 "in"),
      .expr 5 (.call 5 "print" [.call 5 "f" [.ident 5 "x"], .call 5 "f" []])]⟩]

/-- The traced run comes to its end. The body of the function means the outer variable. -/
theorem names_resolved_innerNamesake :
    (innerNamesake.check = .ok () ∧ innerNamesake.CaptureFree ∧ innerNamesake.Unclobbered) ∧
      Process.printed? (Traced.plain (Traced.runProgram .names 20 innerNamesake.statements)
        .initial .initial) = some "inout outout\n".toUTF8 := by
  have hcheck : innerNamesake.check = .ok () := by decide +kernel
  have hcapture : innerNamesake.CaptureFree := by decide
  have hun : innerNamesake.Unclobbered := by decide
  refine ⟨⟨hcheck, hcapture, hun⟩, ?_⟩
  rw [Program.names_resolved hcheck hcapture hun]
  decide +kernel

/-- A variable of a block behind a function of the block that takes the name from outside. -/
def lateNamesake : Program where
  statements := [
    .declare 1 "x" (.named "string") (.text 1 "out"),
    .block ⟨2, [
      .function ⟨3, "f", [], .named "string", ⟨3, [.return 3 (.ident 3 "x")]⟩⟩,
      .declare 4 "x" (.named "string") (.text 4 "in"),
      .expr 5 (.call 5 "print" [.call 5 "f" []])]⟩]

/-- The body of the function means the outer variable, but the run finds the later one. -/
theorem lateNamesake_captured :
    (lateNamesake.check = .ok () ∧ lateNamesake.Unclobbered) ∧
      Process.printed? (Exec.runProgram 20 lateNamesake.statements .initial) =
        some "in\n".toUTF8 ∧
      Traced.plain (Traced.runProgram .names 20 lateNamesake.statements)
        .initial .initial ≠ Exec.runProgram 20 lateNamesake.statements .initial := by
  have hprinted : Process.printed? (Exec.runProgram 20 lateNamesake.statements .initial) =
      some "in\n".toUTF8 := by decide +kernel
  refine ⟨⟨by decide +kernel, by decide⟩, hprinted, fun h => ?_⟩
  have htraced : Process.printed? (Traced.plain (Traced.runProgram .names 20
      lateNamesake.statements) .initial .initial) = none := by decide +kernel
  rw [h, hprinted] at htraced
  cases htraced

end ParLang
