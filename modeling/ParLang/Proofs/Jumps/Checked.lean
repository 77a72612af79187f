import ParLang.Proofs.Execution.Ending
import ParLang.Proofs.Execution.Rooted
import ParLang.Proofs.Execution.Schedule
import ParLang.Proofs.Soundness.Store
import ParLang.Proofs.Typing.Inversion

/-!
# Jumps of a checked program go somewhere

The checker counts the loops around a statement and knows the function that it is in. A statement that
it accepts ends with `break` or `continue` only in a loop, and with `return` only in a function
(`Flow.Admitted`), whatever machine runs it and whatever the world replies. So at the end of a body, at
the top of a program and at the top of a unit of a parallel block, the jumps that would be dropped there
never come: the interpreter has cases for them that no run of an accepted program takes.
-/

namespace ParLang

variable {α β : Type} {c c' : Context}

/-! ## Results of executions -/

/-- Whatever the machine and the world, the execution succeeds only with results as in `Q`. -/
def Exec.Gives (Q : α → Prop) (x : Exec α) : Prop :=
  ∀ m es a m', (x m).Ends es (.ok a, m') → Q a

namespace Exec.Gives

variable {Q : β → Prop}

/-- A value is given as it is. -/
theorem pure {b : β} (hb : Q b) : Gives Q (Pure.pure b : Exec β) := by
  intro m es b' m' h
  obtain ⟨-, heq, -⟩ := ends_pure_iff.mp h
  obtain rfl := Except.ok.inj heq
  exact hb

/-- A failure gives no value. -/
theorem throw (e : RuntimeError) : Gives Q (throw e : Exec β) := by
  intro m es b m' h
  obtain ⟨-, heq⟩ := Process.ends_done_iff.mp h
  cases heq

/-- Nor does a run out of depth. -/
theorem exhausted : Gives Q (Exec.exhausted : Exec β) :=
  fun _ _ _ _ h => absurd h Process.not_ends_exhausted

/-- A sequence gives what its second part does after each result of the first. -/
theorem bind {P : α → Prop} {x : Exec α} {f : α → Exec β} (hx : Gives P x)
    (hf : ∀ a, P a → Gives Q (f a)) : Gives Q (x >>= f) := by
  intro m es b m' h
  obtain ⟨a, m₁, es₁, es₂, ha, hb, -⟩ := ends_bind_ok_iff.mp h
  exact hf a (hx _ _ _ _ ha) _ _ _ _ hb

/-- What comes first may give anything. -/
theorem after {x : Exec α} {f : α → Exec β} (hf : ∀ a, Gives Q (f a)) : Gives Q (x >>= f) :=
  bind (P := fun _ => True) (fun _ _ _ _ _ => trivial) fun a _ => hf a

/-- A scope of its own changes no result. -/
theorem inScope {x : Exec β} (hx : Gives Q x) : Gives Q (Exec.inScope x) := by
  intro m es b m' h
  obtain ⟨m₁, hends, -⟩ := ends_inScope_iff.mp h
  exact hx _ _ _ _ hends

/-- What is given may be described more loosely. -/
theorem imp {P : β → Prop} {x : Exec β} (hx : Gives P x) (h : ∀ b, P b → Q b) : Gives Q x :=
  fun m es b m' hends => h b (hx m es b m' hends)

end Exec.Gives

/-! ## Jumps that the checker allows -/

/-- The checker allows a statement in the context to end so. -/
def Flow.Admitted (c : Context) : Flow → Prop
  | .normal => True
  | .break | .continue => c.loopDepth ≠ 0
  | .return _ => c.function? ≠ none

/-- What is allowed behind a statement was allowed in front of it: the checker restores the loops and the
function around it. -/
theorem Flow.Admitted.restores {flow : Flow} (hc : Check.Restores c c') (h : flow.Admitted c') :
    flow.Admitted c := by
  cases flow with
  | normal => trivial
  | «break» | «continue» => exact fun h0 => h (hc.loopDepth.trans h0)
  | «return» v => exact fun h0 => h (hc.function?.trans h0)

/-- An accepted statement leaves the loops and the function around it as they were. -/
theorem Check.restores_of_statement {s : Stmt} (h : Check.statement s c = (.ok (), c')) :
    Check.Restores c c' := by
  have := Check.statement_restores s c
  rwa [h] at this

/-- Each of several accepted statements is accepted between the same loops, in the same function. -/
theorem Check.statement_of_mem {ss : List Stmt} {s : Stmt}
    (h : Check.statements ss c = (.ok (), c')) (hs : s ∈ ss) :
    ∃ c₁ c₂, Check.statement s c₁ = (.ok (), c₂) ∧ Check.Restores c c₁ := by
  induction ss generalizing c with
  | nil => cases hs
  | cons s' rest ih =>
    obtain ⟨c₁, hfirst, hrest⟩ := Check.statements_cons h
    rcases List.mem_cons.mp hs with rfl | hs
    · exact ⟨c, c₁, hfirst, .refl c⟩
    · obtain ⟨c₂, c₃, hstatement, hrestores⟩ := ih hrest hs
      exact ⟨c₂, c₃, hstatement, (Check.restores_of_statement hfirst).trans hrestores⟩

open Exec (Gives)

/-- Accepted statements end only as the checker allows, at the budget `n`. -/
structure JumpsAt (n : Nat) : Prop where
  run : ∀ {s c c'}, Check.statement s c = (.ok (), c') → Gives (Flow.Admitted c) (Exec.run n s)
  runAll : ∀ {ss c c'}, Check.statements ss c = (.ok (), c') →
    Gives (Flow.Admitted c) (Exec.runAll n ss)
  whileLoop : ∀ {condition body c c'}, Check.statements body c.inLoop.opened = (.ok (), c') →
    Gives (Flow.Admitted c) (Exec.whileLoop n condition body)
  forLoop : ∀ {condition update body c c'}, Check.statements body c.inLoop = (.ok (), c') →
    Gives (Flow.Admitted c) (Exec.forLoop n condition update body)

namespace JumpsAt

variable {n : Nat}

/-- Statements end as the one does at which they stop. -/
theorem runAll_succ {ss : List Stmt} (ih : JumpsAt n)
    (h : Check.statements ss c = (.ok (), c')) :
    Gives (Flow.Admitted c) (Exec.runAll (n + 1) ss) := by
  cases ss with
  | nil => exact .pure trivial
  | cons s rest =>
    obtain ⟨c₁, hs, hrest⟩ := Check.statements_cons h
    refine .bind (ih.run hs) fun flow hflow => ?_
    cases flow with
    | normal =>
      exact (ih.runAll hrest).imp fun _ hb => hb.restores (Check.restores_of_statement hs)
    | _ => exact .pure hflow

/-- A loop takes the jumps of its body for itself, and lets a return through. -/
theorem whileLoop_succ {condition : Expr} {body : List Stmt} (ih : JumpsAt n)
    (h : Check.statements body c.inLoop.opened = (.ok (), c')) :
    Gives (Flow.Admitted c) (Exec.whileLoop (n + 1) condition body) := by
  refine .after fun _ => .after fun holds => ?_
  cases holds with
  | false => exact .pure trivial
  | true =>
    refine .bind (.inScope (ih.runAll h)) fun flow hflow => ?_
    cases flow with
    | «break» => exact .pure trivial
    | «return» v => exact .pure hflow
    | normal => exact ih.whileLoop h
    | «continue» => exact ih.whileLoop h

/-- So does a loop with an update. -/
theorem forLoop_succ {condition : Expr} {update : Assignment} {body : List Stmt} (ih : JumpsAt n)
    (h : Check.statements body c.inLoop = (.ok (), c')) :
    Gives (Flow.Admitted c) (Exec.forLoop (n + 1) condition update body) := by
  refine .after fun _ => .after fun holds => ?_
  cases holds with
  | false => exact .pure trivial
  | true =>
    refine .bind (.inScope (ih.runAll h)) fun flow hflow => ?_
    cases flow with
    | «break» => exact .pure trivial
    | «return» v => exact .pure hflow
    | normal => exact .after fun _ => ih.forLoop h
    | «continue» => exact .after fun _ => ih.forLoop h

/-- **One statement.** Loops catch what belongs to them, and every other construct passes on what its
parts end with. -/
theorem run_succ {s : Stmt} (ih : JumpsAt n) (h : Check.statement s c = (.ok (), c')) :
    Gives (Flow.Admitted c) (Exec.run (n + 1) s) := by
  have hnormal : Gives (Flow.Admitted c) (pure Flow.normal) := .pure trivial
  have hblock : ∀ {ss : List Stmt} {c₁ : Context},
      Check.statements ss c.opened = (.ok (), c₁) →
      Gives (Flow.Admitted c) (Exec.inScope (Exec.runAll n ss)) := fun hss =>
    .inScope ((ih.runAll hss).imp fun _ hflow => hflow)
  refine .after fun _ => ?_
  cases Check.accepts_of_statement h with
  | declare => exact .after fun _ => .after fun _ => hnormal
  | assign => exact .after fun _ => hnormal
  | function => exact .after fun _ => hnormal
  | «return» hf => exact .after fun _ => .pure fun hnone => by simp [hnone] at hf
  | branch _ hyes =>
    refine .after fun holds => ?_
    cases holds with
    | true => exact hblock hyes
    | false => exact hnormal
  | branchElse _ hyes hno =>
    refine .after fun holds => ?_
    cases holds with
    | true => exact hblock hyes
    | false => exact hblock hno
  | «while» _ hbody => exact ih.whileLoop hbody
  | «for» hinit _ _ hbody =>
    refine .inScope (.after fun _ => ?_)
    exact (ih.forLoop hbody).imp fun _ hb =>
      hb.restores (c := c.opened) (Check.restores_of_statement hinit)
  | «break» hloop => exact .pure hloop
  | «continue» hloop => exact .pure hloop
  | seq hbody => exact hblock hbody
  | block hbody => exact hblock hbody
  | par =>
    refine .after fun _ => .after fun results => ?_
    obtain hjoin | ⟨e, -, hjoin⟩ := Exec.join_cases results
    · exact hjoin ▸ hnormal
    · exact hjoin ▸ .throw e
  | expr => exact .after fun _ => hnormal
  | server =>
    refine .after fun _ => .after fun _ => .after fun _ => .after fun _ => ?_
    exact .after fun _ => .after fun _ => hnormal
  | client =>
    refine .after fun _ => .after fun _ => .after fun _ => .after fun _ => ?_
    exact .after fun _ => .after fun _ => hnormal

end JumpsAt

/-- The interpreter at any depth, by induction on it. -/
theorem jumpsAt (n : Nat) : JumpsAt n := by
  induction n with
  | zero =>
    exact ⟨fun _ => .exhausted, fun _ => .exhausted, fun _ => .exhausted, fun _ => .exhausted⟩
  | succ n ih => exact ⟨ih.run_succ, ih.runAll_succ, ih.whileLoop_succ, ih.forLoop_succ⟩

/-! ## Accepted programs are a fragment -/

/-- The checker accepts the statement somewhere. -/
def Stmt.Accepted (s : Stmt) : Prop :=
  ∃ c c', Check.statement s c = (.ok (), c')

/-- What the checker accepts has accepted parts. -/
theorem Stmt.Accepted.part {s t : Stmt} (h : s.Accepted) (ht : t ∈ s.parts) : t.Accepted := by
  obtain ⟨c, c', h⟩ := h
  have hlist : ∀ {ss : List Stmt} {c c' : Context}, Check.statements ss c = (.ok (), c') →
      t ∈ ss → t.Accepted := fun hss hmem => by
    obtain ⟨c₁, c₂, hstatement, -⟩ := Check.statement_of_mem hss hmem
    exact ⟨c₁, c₂, hstatement⟩
  cases Check.accepts_of_statement h with
  | function _ _ _ hbody => exact hlist hbody ht
  | branch _ hyes =>
    rcases List.mem_append.mp ht with ht | ht
    · exact hlist hyes ht
    · cases ht
  | branchElse _ hyes hno =>
    rcases List.mem_append.mp ht with ht | ht
    · exact hlist hyes ht
    · exact hlist hno ht
  | «while» _ hbody => exact hlist hbody ht
  | «for» hinit _ hu hbody =>
    rcases List.mem_cons.mp ht with rfl | ht
    · exact ⟨_, _, hinit⟩
    · rcases List.mem_cons.mp ht with rfl | ht
      · exact ⟨_, _, hu⟩
      · exact hlist hbody ht
  | seq hbody => exact hlist hbody ht
  | block hbody => exact hlist hbody ht
  | par hunits =>
    obtain ⟨c₁, hunit⟩ := hunits t ht
    exact ⟨_, _, hunit⟩
  | _ => cases ht

/-- The statements that the checker accepts somewhere. -/
def acceptedFragment : Fragment :=
  { Fragment.whole with
    stmt := Stmt.Accepted
    part := Stmt.Accepted.part
    operand := fun _ _ => trivial
    cell := fun _ => trivial
    server := fun _ => trivial
    client := fun _ => trivial }

/-- The body of an accepted function ends normally or with a value. -/
theorem Exec.gives_body {d : FunctionDef Stmt} (h : acceptedFragment.stmt (.function d)) (n : Nat) :
    Gives (fun flow => flow = .normal ∨ ∃ v, flow = .return v)
      (Exec.runAll n d.body.statements) := by
  obtain ⟨c, c', hd⟩ := h
  cases Check.accepts_of_statement hd with
  | @function _ s _ _ hparams _ hbody =>
    have hrestores := Check.restoring_declareParams d.params s.params (c.inFunction d.name s)
    rw [hparams] at hrestores
    refine ((jumpsAt n).runAll hbody).imp fun flow hflow => ?_
    cases flow with
    | normal => exact .inl rfl
    | «return» v => exact .inr ⟨v, rfl⟩
    | «break» | «continue» => exact absurd hrestores.loopDepth hflow

/-- An accepted statement outside of loops and functions ends normally. -/
theorem Exec.gives_normal {s : Stmt} (h : Check.statement s c = (.ok (), c'))
    (hloop : c.loopDepth = 0) (hfunction : c.function? = none) (n : Nat) :
    Gives (· = .normal) (Exec.run n s) := by
  refine ((jumpsAt n).run h).imp fun flow hflow => ?_
  cases flow with
  | normal => rfl
  | «return» v => exact absurd hfunction hflow
  | «break» | «continue» => exact absurd hloop hflow

/-! ## Main result -/

/-- **Jumps stay inside.** In every run of an accepted program, the body of every function that is
called ends normally or with a value, and every unit that is started and every statement at the top ends
normally. -/
theorem Program.jumps_stay_inside {p : Program} (hcheck : p.check = .ok ()) {budget clock : Nat}
    {w w' : World} {t : Task}
    (hrun : Task.Reaches (.start clock (Exec.runProgram budget p.statements) .initial) w t w') :
    (∀ m line f, t.Asks m (.pause (.call line f)) → ∀ n m₁ es flow m₂,
      (Exec.runAll n f.definition.body.statements m₁).Ends es (.ok flow, m₂) →
        flow = .normal ∨ ∃ v, flow = .return v) ∧
    (∀ f, t.Starts f → ∀ s ∈ f.units, ∀ n m₁ es flow m₂,
      (Exec.run n s m₁).Ends es (.ok flow, m₂) → flow = .normal) ∧
    ∀ s ∈ p.statements, ∀ n m₁ es flow m₂,
      (Exec.run n s m₁).Ends es (.ok flow, m₂) → flow = .normal := by
  obtain ⟨c', hstatements⟩ : ∃ c', Check.statements p.statements .initial = (.ok (), c') :=
    ⟨_, Prod.ext hcheck rfl⟩
  have haccepted : ∀ s ∈ p.statements, acceptedFragment.stmt s := fun s hs => by
    obtain ⟨c₁, c₂, hstatement, -⟩ := Check.statement_of_mem hstatements hs
    exact ⟨c₁, c₂, hstatement⟩
  obtain ⟨K, hkeeps, -⟩ := Task.keeps_of_reaches haccepted hrun
  refine ⟨fun m line f hasks n => ?_, fun f hstarts s hs n => ?_, fun s hs n => ?_⟩
  · obtain ⟨_, hallows⟩ := hkeeps.request hasks
    exact Exec.gives_body (Fragment.Allows.call hallows line f rfl) n
  · obtain ⟨-, line, c, c₁, hpar⟩ := hkeeps.starts hstarts
    cases Check.accepts_of_statement hpar with
    | par hunits =>
      obtain ⟨c₂, hunit⟩ := hunits s hs
      exact Exec.gives_normal hunit rfl rfl n
  · obtain ⟨c₁, c₂, hstatement, hrestores⟩ := Check.statement_of_mem hstatements hs
    exact Exec.gives_normal hstatement hrestores.loopDepth hrestores.function? n

/-! ## An instance -/

namespace Task

/-- The effect at the end of a way is a request of the unit there. -/
theorem asks_of_effectAt? {way : List Nat} {t : Task} {e : Effect} (h : effectAt? way t = some e) :
    ∃ m, t.Asks m e := by
  induction way generalizing t with
  | nil =>
    cases t with
    | running clock p =>
      cases p with
      | perform m e k => cases h; exact ⟨m, .asking⟩
      | _ => cases h
    | _ => cases h
  | cons i way ih =>
    cases t with
    | waiting f units k =>
      obtain ⟨u, hu, h⟩ := Option.bind_eq_some_iff.mp h
      obtain ⟨m, hasks⟩ := ih h
      exact ⟨m, .unit (List.mem_of_getElem? hu) hasks⟩
    | _ => cases h

/-- The task is a unit that starts other units next. -/
def starts : Task → Bool
  | .running _ (.fork _ _) => true
  | _ => false

end Task

/-- A function that leaves a loop by every jump, called by a unit beside one with a loop of its own. -/
def jumpingUnits : Program where
  statements := [
    .function ⟨1, "f", [⟨1, "b", .named "bool", none⟩], .named "string", ⟨1, [
      .while 2 (.truth 2 true) ⟨2, [
        .branch 3 (.ident 3 "b") ⟨3, [.return 4 (.text 4 "yes")]⟩ (some ⟨5, [.break 6]⟩),
        .continue 7]⟩,
      .return 8 (.text 8 "no")]⟩⟩,
    .par ⟨9, [
      .expr 10 (.call 10 "print" [.call 10 "f" [.truth 10 false]]),
      .while 11 (.truth 11 true) ⟨11, [.break 12]⟩]⟩]

/-- The program comes to a start of units, and then to a call of the function. -/
theorem jumps_stay_inside_jumpingUnits :
    jumpingUnits.check = .ok () ∧
    (∃ t w f, Task.Reaches (.start 0 (Exec.runProgram 20 jumpingUnits.statements) .initial)
        .deserted t w ∧ t.Starts f ∧
      ∀ s ∈ f.units, ∀ n m₁ es flow m₂,
        (Exec.run n s m₁).Ends es (.ok flow, m₂) → flow = .normal) ∧
    (∃ t w m line f, Task.Reaches (.start 0 (Exec.runProgram 20 jumpingUnits.statements) .initial)
        .deserted t w ∧ t.Asks m (.pause (.call line f)) ∧
      ∀ n m₁ es flow m₂, (Exec.runAll n f.definition.body.statements m₁).Ends es (.ok flow, m₂) →
        flow = .normal ∨ ∃ v, flow = .return v) ∧
    ∀ s ∈ jumpingUnits.statements, ∀ n m₁ es flow m₂,
      (Exec.run n s m₁).Ends es (.ok flow, m₂) → flow = .normal := by
  have hcheck : jumpingUnits.check = .ok () := by decide +kernel
  have hforks : (Task.follow [[], []]
      (.start 0 (Exec.runProgram 20 jumpingUnits.statements) .initial) .deserted).any
      (·.1.starts) := by decide +kernel
  have hcalls : (Task.follow [[], [], [], [0]]
      (.start 0 (Exec.runProgram 20 jumpingUnits.statements) .initial) .deserted).any
      (fun r => (Task.effectAt? [0] r.1).any Effect.isCall) := by decide +kernel
  have hstart : Task.Reaches (.start 0 (Exec.runProgram 20 jumpingUnits.statements) .initial)
      .deserted _ _ := .start
  refine ⟨hcheck, ?_, ?_, (Program.jumps_stay_inside hcheck hstart).2.2⟩
  · obtain ⟨⟨t, w⟩, hfollow, hstarts⟩ := (Option.any_eq_true _ _).mp hforks
    have hrun := Task.reaches_of_follow hfollow
    cases t with
    | running clock p =>
      cases p with
      | fork f k =>
        exact ⟨_, w, f, hrun, .forking, (Program.jumps_stay_inside hcheck hrun).2.1 f .forking⟩
      | _ => cases hstarts
    | _ => cases hstarts
  · obtain ⟨⟨t, w⟩, hfollow, heffect⟩ := (Option.any_eq_true _ _).mp hcalls
    have hrun := Task.reaches_of_follow hfollow
    obtain ⟨e, he, hcall⟩ := (Option.any_eq_true _ _).mp heffect
    obtain ⟨m, hasks⟩ := Task.asks_of_effectAt? he
    cases e with
    | pause here =>
      cases here with
      | call line f =>
        exact ⟨t, w, m, line, f, hrun, hasks,
          (Program.jumps_stay_inside hcheck hrun).1 m line f hasks⟩
      | _ => cases hcall
    | _ => cases hcall

end ParLang
