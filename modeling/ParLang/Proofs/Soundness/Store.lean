import Mathlib.Data.List.Nodup
import ParLang.Proofs.Soundness.Interpreter
import ParLang.Proofs.Typing.Accepted

/-!
# Every run keeps the store typed

The main statement on typing: in an accepted program of the monomorphic fragment whose names are
distinct and whose functions surely return, every variable holds a value of its declared type and every
array cell a scalar of its array's element type, at every step of every run under every schedule. So no
run comes to an undeclared variable or an undefined function, and none to a value of a wrong type.
-/

namespace ParLang

namespace Program

/-- Every binding of the machine, in whichever scope, has a value of the type that the program declares
its name with. -/
def TypesBindings (p : Program) (H : HeapTyping) (m : Machine) : Prop :=
  Scopes.Each (fun x v => ∃ type t, (x, type) ∈ p.declarations ∧
    StaticType.ofTypeExpr? type = some t ∧ v.HasType H t) m.scopes.toList

/-- The declarations of a program with the types that they stand for. -/
def typedDeclarations (p : Program) : List (String × StaticType) :=
  p.declarations.filterMap fun d => (StaticType.ofTypeExpr? d.2).map (d.1, ·)

/-- The typed declarations of a program are those of its text whose types are known. -/
theorem mem_typedDeclarations {p : Program} {x : String} {t : StaticType} :
    (x, t) ∈ p.typedDeclarations ↔
      ∃ type, (x, type) ∈ p.declarations ∧ StaticType.ofTypeExpr? type = some t := by
  simp only [typedDeclarations, List.mem_filterMap, Option.map_eq_some_iff, Prod.mk.injEq]
  constructor
  · rintro ⟨⟨x', type⟩, hmem, t', ht, rfl, rfl⟩
    exact ⟨type, hmem, ht⟩
  · rintro ⟨type, hmem, ht⟩
    exact ⟨(x, type), hmem, t, ht, rfl, rfl⟩

/-- The tables of a program whose names are distinct. -/
def globals (p : Program) (hdeclarations : (p.declarations.map Prod.fst).Nodup)
    (hfunctions : (p.functions.map (·.definition.name)).Nodup) : Globals where
  declarations := p.typedDeclarations
  functions := p.functions
  declaration_unique := by
    intro x t t' hx hx'
    obtain ⟨type, hmem, ht⟩ := mem_typedDeclarations.mp hx
    obtain ⟨type', hmem', ht'⟩ := mem_typedDeclarations.mp hx'
    obtain ⟨-, rfl⟩ := Prod.mk.inj (List.inj_on_of_nodup_map hdeclarations hmem hmem' rfl)
    exact Option.some.inj (ht.symm.trans ht')
  function_unique hf hg heq := List.inj_on_of_nodup_map hfunctions hf hg heq

/-- At the start the checker sees nothing that is not there. -/
theorem fits_initial (G : Globals) : Fits G .initial 1 Context.initial.names where
  bound _ _ hx := by cases hx
  callable _ _ hs := by cases hs
  depth := rfl

/-- At the start nothing is bound that could have a wrong type. -/
theorem typed_initial (G : Globals) : Machine.initial.Typed G .empty where
  bindings := Scopes.each_empty_cons.mpr fun _ hs => by cases hs
  functions _ _ hf := by cases hf

/-- **Store typing.** `H` gives the element type of each array. A machine that the run showed at an
earlier step is typed by the same `H`: what a call has hidden since is as it was then. -/
theorem store_typed {p : Program} (hcheck : p.check = .ok ())
    (hfunctions : (p.functions.map (·.definition.name)).Nodup)
    (hdeclarations : (p.declarations.map Prod.fst).Nodup) (hmono : p.Monomorphic)
    (hreturns : p.SurelyReturns) {budget clock : Nat} {w w₁ w₂ : World} {t₁ t₂ : Task}
    (hfresh : w.heap = .empty)
    (hrun₁ : Task.Reaches (.start clock (Exec.runProgram budget p.statements) .initial) w t₁ w₁)
    (hrun₂ : Task.Reaches t₁ w₁ t₂ w₂) :
    ∃ H : HeapTyping, w₂.heap.Typed H ∧
      (∀ m, t₁.Shows m ∨ t₂.Shows m → p.TypesBindings H m) ∧
      ∀ e, t₂.Fails e →
        (∀ x, e.cause ≠ .undeclaredVariable x) ∧ (∀ f, e.cause ≠ .undefinedFunction f) ∧
        ∀ what, e.cause = .typeMismatch what →
          (∃ text, what = .noTruth text) ∨ ∃ port, what = .invalidPort port := by
  let G := p.globals hdeclarations hfunctions
  obtain ⟨c', hstatements⟩ : ∃ c', Check.statements p.statements .initial = (.ok (), c') :=
    ⟨_, Prod.ext hcheck rfl⟩
  have hcovers : G.Covers p.declarations p.functions :=
    ⟨fun x type t hmem ht => mem_typedDeclarations.mpr ⟨type, hmem, ht⟩, fun f hf => hf⟩
  have htyped : StmtsTyped G 1 .initial p.statements c' :=
    .of_statements (G := G) hreturns hstatements hmono hcovers
  have hkeeps : (Task.start clock (Exec.runProgram budget p.statements) .initial).Keeps
      (heapProtocol G) .empty := by
    refine Process.Keeps.weaken (runProgram_sound htyped (fits_initial G) (typed_initial G)) ?_
    rintro H' ⟨r, m'⟩ - ⟨-, ht, -, -, herr⟩
    refine ⟨ht, ?_⟩
    cases r with
    | ok _ => trivial
    | error e => exact herr e rfl
  have hworld : w.heap.Typed .empty := hfresh ▸ Heap.typed_empty
  obtain ⟨H₁, -, hkeeps₁, hworld₁⟩ := hkeeps.run (forksKeep G) hworld hrun₁
  obtain ⟨H₂, hH, hkeeps₂, hworld₂⟩ := hkeeps₁.run (forksKeep G) hworld₁ hrun₂
  have hbindings : ∀ {m : Machine}, m.Typed G H₂ → p.TypesBindings H₂ m := fun hm =>
    hm.bindings.imp fun x v ⟨t, hmem, hv⟩ => by
      obtain ⟨type, hmem, ht⟩ := mem_typedDeclarations.mp hmem
      exact ⟨type, t, hmem, ht, hv⟩
  refine ⟨H₂, hworld₂, fun m hm => ?_, fun e he => ?_⟩
  · rcases hm with hm | hm
    · exact hbindings (Machine.Typed.mono hH (hkeeps₁.machine hm))
    · exact hbindings (hkeeps₂.machine hm)
  · have hcause : e.cause.Unchecked := hkeeps₂.result he
    refine ⟨fun x hx => ?_, fun f hf => ?_, fun what hwhat => ?_⟩
    · rw [hx] at hcause
      exact hcause
    · rw [hf] at hcause
      exact hcause
    · rw [hwhat] at hcause
      cases what with
      | noTruth text => exact .inl ⟨text, rfl⟩
      | invalidPort port => exact .inr ⟨port, rfl⟩
      | _ => exact hcause.elim

end Program

/-! ## An instance -/

/-- Whether a unit runs to its end and fails, for a cause as given. -/
def Process.failsFor (P : RuntimeError.Cause → Bool) (p : Process (UnitResult × Machine)) : Bool :=
  match Task.runSteps 100 (.running 0 p) .deserted with
  | .finished (.error e) _ _ => P e.cause
  | _ => false

/-- To show that a unit can fail in some way it is enough to run it. -/
theorem Process.exists_fails {P : RuntimeError.Cause → Bool} {x : Exec Unit} {m : Machine}
    (h : Process.failsFor P (x m)) :
    ∃ t w e, Task.Reaches (.start 0 x m) .deserted t w ∧ t.Fails e ∧ P e.cause := by
  rw [Process.failsFor] at h
  split at h
  · next e m' w hrun =>
    obtain ⟨clock, hreaches⟩ := Task.reaches_of_runSteps hrun
    exact ⟨_, w, e, hreaches, .finished, h⟩
  · cases h

/-- An array that two units share, and a function with a default that stores in it. -/
def sharedArray : Program where
  statements := [
    .declare 1 "xs" (.array (.named "number")) (.array 1 [.number 1 1]),
    .function ⟨2, "put",
      [⟨2, "ys", .array (.named "number"), none⟩, ⟨2, "n", .named "number", some (.number 2 2)⟩],
      .named "number",
      ⟨2, [
        .assign ⟨3, .cell (.ident 3 "ys") (.number 3 0), .ident 3 "n"⟩,
        .return 4 (.index 4 (.ident 4 "ys") (.number 4 0))]⟩⟩,
    .par ⟨5, [
      .declare 6 "a" (.named "number") (.call 6 "put" [.ident 6 "xs"]),
      .assign ⟨7, .variable 7 "xs", .array 7 []⟩]⟩]

/-- Every path through a function of the example returns. -/
theorem sharedArray_surelyReturns : sharedArray.SurelyReturns := by
  intro f hf _
  obtain rfl := List.mem_singleton.mp hf
  rfl

/-- A check has one result. -/
theorem Checked.eq_of_eq_ok {α : Type} {x : Checked α} {a b : α} (hb : x = .ok b) (ha : x = .ok a) :
    a = b :=
  Except.ok.inj (ha.symm.trans hb)

/-- No empty array in it leaves a type open. -/
theorem sharedArray_monomorphic : sharedArray.Monomorphic := by
  have hnumbers : StaticType.ofTypeExpr? (.array (.named "number")) = some .arrayNumber := by decide
  have hnumber : StaticType.ofTypeExpr? (.named "number") = some .number := by decide
  refine ⟨⟨⟨trivial, trivial⟩, fun t ht => ?_⟩, fun s hs => ?_,
    ⟨⟨⟨⟨trivial, trivial⟩, fun _ s hs => ?_⟩, fun t ht => ?_⟩,
      ⟨trivial, ⟨trivial, fun _ _ => .inr ⟨7, rfl⟩⟩⟩, trivial⟩, trivial⟩
  -- The declaration of the array.
  · obtain rfl := Option.some.inj (hnumbers.symm.trans ht)
    exact .inl (by decide +kernel)
  -- The default of the function and the assignment in it.
  · obtain rfl : s = ⟨[.arrayNumber, .number], 1, .number⟩ :=
      Checked.eq_of_eq_ok (by decide +kernel) hs
    refine ⟨⟨fun _ he => (nomatch he), fun e he => ?_, trivial⟩,
      ⟨⟨trivial, trivial⟩, trivial, fun t ht => ?_⟩, ⟨trivial, trivial⟩, trivial⟩
    · obtain rfl := Option.some.inj he
      exact ⟨trivial, .inl (by decide +kernel)⟩
    · obtain rfl : t = .number := Checked.eq_of_eq_ok (by decide +kernel) ht
      exact .inl (by decide +kernel)
  -- The argument of the call and the declaration of its value.
  · obtain rfl : ⟨[.arrayNumber, .number], 1, .number⟩ = s :=
      Option.some.inj ((show _ = some _ by decide +kernel).symm.trans hs)
    intro pair hpair
    obtain rfl := List.mem_singleton.mp hpair
    exact .inl (by decide +kernel)
  · obtain rfl := Option.some.inj (hnumber.symm.trans ht)
    exact .inl (by decide +kernel)

/-- The program is of the fragment, and it runs to its end with a typed store. -/
theorem store_typed_sharedArray :
    (sharedArray.check = .ok () ∧ (sharedArray.functions.map (·.definition.name)).Nodup ∧
      (sharedArray.declarations.map Prod.fst).Nodup ∧ sharedArray.Monomorphic ∧
      sharedArray.SurelyReturns) ∧
    ∃ clock m w H,
      Task.Reaches (.start 0 (Exec.runProgram 20 sharedArray.statements) .initial) .deserted
        (.finished clock (.ok ()) m) w ∧
      w.heap.Typed H ∧ sharedArray.TypesBindings H m := by
  have hends : (Task.runSteps 100
      (.start 0 (Exec.runProgram 20 sharedArray.statements) .initial) .deserted).isSuccess := by
    decide +kernel
  have hcheck : sharedArray.check = .ok () := by decide +kernel
  have hfunctions : (sharedArray.functions.map (·.definition.name)).Nodup := by decide
  have hdeclarations : (sharedArray.declarations.map Prod.fst).Nodup := by decide
  refine ⟨⟨hcheck, hfunctions, hdeclarations, sharedArray_monomorphic,
    sharedArray_surelyReturns⟩, ?_⟩
  obtain ⟨clock, m, w, hrun⟩ := Task.exists_reaches_of_isSuccess hends
  obtain ⟨H, hheap, hbindings, -⟩ := Program.store_typed hcheck hfunctions hdeclarations
    sharedArray_monomorphic sharedArray_surelyReturns rfl .start hrun
  exact ⟨clock, m, w, H, hrun, hheap, hbindings m (.inr .finished)⟩

end ParLang
