import Mathlib.Order.CompleteBooleanAlgebra
import Mathlib.Order.CompletePartialOrder
import ParLang.Proofs.Resolution.Agreement

/-!
# What calls find

* A call runs the function that the checker saw, if functions in the bodies of others have names of
  their own (`Program.calls_resolved`). Otherwise it may run another one: the functions of a run are in
  one table, and a definition in the body of one function overwrites that in the body of another.
* If all functions have different names, no run comes to a variable without a binding, and a call never
  has fewer scopes than its function was defined in (`Program.variables_declared`).

The first is an equation between the traced run and the run. For the second, an execution that is
followed by its traced run keeps to a protocol, `namesProtocol`, and so do the units that it starts.
-/

namespace ParLang

variable {K : Survey} {p : Program}

/-! ## Calls -/

/-- **A call runs the function that the checker saw**, each time it is made: the traced run, which gives
up at any other definition, is the run. -/
theorem Program.calls_resolved (hcheck : p.check = .ok ()) (hun : p.Unclobbered) (budget : Nat) :
    Traced.plain (Traced.runProgram .calls budget p.statements) .initial .initial =
      Exec.runProgram budget p.statements .initial :=
  (p.follows (w := .calls) hcheck hun (fun h => nomatch h) budget).plain_eq

/-- Two blocks with functions of one name. The second is called from a function inside. -/
def rivalBlocks : Program where
  statements := [
    .block ⟨1, [
      .function ⟨2, "f", [], .named "string", ⟨2, [.return 2 (.text 2 "one")]⟩⟩,
      .expr 3 (.call 3 "print" [.call 3 "f" []])]⟩,
    .block ⟨4, [
      .function ⟨5, "f", [], .named "string", ⟨5, [.return 5 (.text 5 "two")]⟩⟩,
      .function ⟨6, "g", [], .named "string", ⟨6, [
        .function ⟨7, "h", [], .named "string", ⟨7, [.return 7 (.call 7 "f" [])]⟩⟩,
        .return 8 (.call 8 "h" [])]⟩⟩,
      .expr 9 (.call 9 "print" [.call 9 "g" []])]⟩]

/-- The traced run comes to its end, and each block has used its own function. -/
theorem calls_resolved_rivalBlocks :
    (rivalBlocks.check = .ok () ∧ rivalBlocks.Unclobbered) ∧
      Process.printed? (Traced.plain (Traced.runProgram .calls 40 rivalBlocks.statements)
        .initial .initial) = some "one\ntwo\n".toUTF8 := by
  have hcheck : rivalBlocks.check = .ok () := by decide +kernel
  have hun : rivalBlocks.Unclobbered := by decide
  refine ⟨⟨hcheck, hun⟩, ?_⟩
  rw [Program.calls_resolved hcheck hun]
  decide +kernel

/-- Two functions with helpers of one name. -/
def rivalHelpers : Program where
  statements := [
    .function ⟨1, "b", [], .named "string", ⟨1, [
      .function ⟨2, "h", [], .named "string", ⟨2, [.return 2 (.text 2 "of b")]⟩⟩,
      .return 3 (.call 3 "h" [])]⟩⟩,
    .function ⟨4, "a", [], .named "string", ⟨4, [
      .function ⟨5, "h", [], .named "string", ⟨5, [.return 5 (.text 5 "of a")]⟩⟩,
      .expr 6 (.call 6 "b" []),
      .return 7 (.call 7 "h" [])]⟩⟩,
    .expr 8 (.call 8 "print" [.call 8 "a" []])]

/-- The last call of the helper is checked against the one of its own function, but it runs the one of
the other. -/
theorem rivalHelpers_clobbered :
    (rivalHelpers.check = .ok () ∧ rivalHelpers.CaptureFree) ∧
      Process.printed? (Exec.runProgram 20 rivalHelpers.statements .initial) =
        some "of b\n".toUTF8 ∧
      Traced.plain (Traced.runProgram .calls 20 rivalHelpers.statements)
        .initial .initial ≠ Exec.runProgram 20 rivalHelpers.statements .initial := by
  have hprinted : Process.printed? (Exec.runProgram 20 rivalHelpers.statements .initial) =
      some "of b\n".toUTF8 := by decide +kernel
  refine ⟨⟨by decide +kernel, by decide⟩, hprinted, fun h => ?_⟩
  have htraced : Process.printed? (Traced.plain (Traced.runProgram .calls 20
      rivalHelpers.statements) .initial .initial) = none := by decide +kernel
  rw [h, hprinted] at htraced
  cases htraced

/-! ## Variables and scopes -/

/-- Units call functions whose scopes are all there, start units where these stand, and do not fail for
a name without a meaning. -/
def namesProtocol (K : Survey) : Protocol Unit Unit where
  machine _ _ := True
  request _ _ m e := e.Permitted m
  reply _ _ _ _ := True
  fork _ f := f.Watched K
  result r := ∀ e, r = .error e → e.cause.unresolved = false
  world _ _ := True
  machine_mono _ h := h
  request_mono _ h := h
  fork_mono _ h := h
  fork_machine _ := trivial
  answer _ _ _ := ⟨(), le_rfl, trivial, trivial⟩
  outside _ _ _ := trivial
  around _ _ := trivial
  panic _ := by rintro _ ⟨⟩; rfl

/-- An execution that is followed keeps to the protocol. -/
theorem Follows.keeps {α : Type} {Q : α → Trace → Machine → Prop} {E : RuntimeError → Prop}
    {p : Process (Except RuntimeError (α × Trace) × Machine)}
    {p' : Process (Except RuntimeError α × Machine)} (h : Follows K Q E p p')
    (hE : ∀ e, E e → e.cause.unresolved = false) :
    p'.Keeps (namesProtocol K) (fun _ r => ∀ e, r.1 = .error e → e.cause.unresolved = false) () := by
  induction h with
  | ok _ => exact fun _ he => nomatch he
  | @error E e m he =>
    rintro _ ⟨⟩
    by_contra hun
    exact hun (hE e (he (by simpa using hun)))
  | perform he _ ih => exact ⟨trivial, (), he, fun _ r _ _ => ih r hE⟩
  | fork hf _ ih =>
    refine ⟨hf, fun _ rs _ hrs => ih rs fun e he => ?_⟩
    exact he.elim (hE e) fun hmem => hrs _ hmem e rfl
  | exhausted => trivial

/-- The units of a fork that is watched keep to the protocol. -/
theorem forksKeep_namesProtocol : Task.ForksKeep (namesProtocol K) := by
  rintro _ ⟨budget, machine, units⟩ ⟨tr, S, taken, q, ht, hat, hst, hunits⟩ s hs i
  obtain ⟨j, hj⟩ := List.getElem?_of_mem hs
  have hrun := (resolvesAt K budget).run (hunits j s hj) (hst.inUnit.mono (subset_freeOfUnits hs))
    (m := machine.child i) ⟨rfl, hat.functions⟩
  have hunit : Mirrors K _ tr (machine.child i)
      (do let _ ← (Traced.interpreter K.watch).run budget ⟨S.inUnit, j :: q⟩ s) (Exec.runUnit budget s)
      fun _ => True :=
    .bind hrun fun _ tr₁ m₁ _ => .pure () trivial
  have hkeeps := (hunit (ht.withScopes ht.labels rfl rfl)).keeps fun _ h => h.elim
  exact Process.Keeps.weaken hkeeps fun _ _ _ h => ⟨trivial, h⟩

/-- **Every variable is declared and every call finds its scopes**, in every run of an accepted program
whose functions have different names: none of its units fails for want of a variable, and the depth of
a function that is called is kept as it is. -/
theorem Program.variables_declared (hcheck : p.check = .ok ())
    (hfunctions : (p.functions.map (·.definition.name)).Nodup) {budget clock : Nat} {w w' : World}
    {t : Task}
    (hrun : Task.Reaches (.start clock (Exec.runProgram budget p.statements) .initial) w t w') :
    (∀ e x, t.Fails e → e.cause ≠ .undeclaredVariable x) ∧
      ∀ m line f, t.Asks m (.pause (.call line f)) →
        f.depth ≤ m.scopes.depth ∧ (m.scopes.enter f.depth).1.depth = f.depth := by
  have hfollows := p.follows (w := .calls) hcheck (unclobbered_of_nodup hfunctions)
    (fun h => nomatch h) budget
  have hkeeps : (Task.start clock (Exec.runProgram budget p.statements) .initial).Keeps
      (namesProtocol (p.survey .calls (unclobbered_of_nodup hfunctions))) () :=
    Process.Keeps.weaken (hfollows.keeps fun _ h => h.elim) fun _ _ _ h => ⟨trivial, h⟩
  obtain ⟨_, -, hkeeps, -⟩ := hkeeps.run forksKeep_namesProtocol trivial hrun
  refine ⟨fun e x he hx => ?_, fun m line f hf => ?_⟩
  · have hresolved := hkeeps.result he e rfl
    rw [hx] at hresolved
    cases hresolved
  · obtain ⟨_, hpermitted⟩ := hkeeps.request hf
    obtain ⟨hpos, hdepth⟩ := hpermitted line f rfl
    refine ⟨hdepth, ?_⟩
    show max 1 (min f.depth m.scopes.depth) = f.depth
    omega

/-- A function that calls itself from a function inside of it, which takes its parameter, and units
that assign to a variable with the name of others. -/
def nestedCaller : Program where
  statements := [
    .function ⟨1, "f", [⟨1, "again", .named "bool", none⟩], .named "string", ⟨1, [
      .function ⟨2, "g", [], .named "string", ⟨2, [
        .branch 3 (.ident 3 "again") ⟨3, [
          .declare 4 "s" (.named "string") (.call 4 "f" [.truth 4 false]),
          .return 5 (.ident 5 "s")]⟩ none,
        .return 6 (.text 6 "end")]⟩⟩,
      .declare 7 "s" (.named "string") (.call 7 "g" []),
      .return 8 (.ident 8 "s")]⟩⟩,
    .block ⟨9, [
      .declare 10 "s" (.named "string") (.text 10 "start"),
      .par ⟨11, [
        .assign ⟨12, .variable 12 "s", .call 12 "f" [.truth 12 true]⟩,
        .expr 13 (.call 13 "print" [.ident 13 "s"])]⟩]⟩]

/-- The run comes to its end, and every call on the way finds the scopes of its function. -/
theorem variables_declared_nestedCaller :
    (nestedCaller.check = .ok () ∧ (nestedCaller.functions.map (·.definition.name)).Nodup ∧
      Process.printed? (Exec.runProgram 40 nestedCaller.statements .initial) =
        some "start\n".toUTF8) ∧
    ∀ t w, Task.Reaches (.start 0 (Exec.runProgram 40 nestedCaller.statements) .initial)
        .deserted t w →
      (∀ e x, t.Fails e → e.cause ≠ .undeclaredVariable x) ∧
        ∀ m line f, t.Asks m (.pause (.call line f)) →
          f.depth ≤ m.scopes.depth ∧ (m.scopes.enter f.depth).1.depth = f.depth := by
  have hcheck : nestedCaller.check = .ok () := by decide +kernel
  have hfunctions : (nestedCaller.functions.map (·.definition.name)).Nodup := by decide
  exact ⟨⟨hcheck, hfunctions, by decide +kernel⟩,
    fun t w hrun => Program.variables_declared hcheck hfunctions hrun⟩

end ParLang
