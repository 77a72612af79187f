import Mathlib.Order.Defs.Unbundled
import ParLang.Proofs.Execution.Ending
import ParLang.Proofs.Execution.Oblivious
import ParLang.Proofs.Scope.Names
import ParLang.Session

/-!
# Every execution leaves the scopes as it found them

Blocks, loops and calls open scopes and hide them, and an execution may leave them at any point: at the
end, by a jump or by a failure. However it ends, and whether or not the program was checked, the stack
of scopes has its height again, every scope but the innermost binds the names that it bound before, and
the innermost one has only gained names (`Machine.Settles`). An expression gains none at all
(`Machine.SameNames`). A call leaves the scopes that it hides untouched.

`Exec.Leads` is the judgement: it compares the machine before an execution with the machine behind it,
at every end. What an operation on values does to the machine is known already (`Exec.Oblivious`), so
the rules are about variables, definitions, blocks and calls.
-/

namespace ParLang

variable {α β : Type}

/-! ## Comparison of machines -/

/-- Every scope binds the names that it bound before, and no function is lost. -/
structure Machine.SameNames (m m' : Machine) : Prop where
  scopes : Scopes.SameNames m.scopes.toList m'.scopes.toList
  functions : ∀ g, m.functions.contains g → m'.functions.contains g

/-- The same, but the innermost scope may have gained names. -/
structure Machine.Settles (m m' : Machine) : Prop where
  scopes : m.scopes.Settles m'.scopes
  functions : ∀ g, m.functions.contains g → m'.functions.contains g

/-- What keeps all names has the names that were there. -/
theorem Machine.SameNames.settles {m m' : Machine} (h : m.SameNames m') : m.Settles m' :=
  ⟨.of_sameNames h.scopes, h.functions⟩

/-- Scopes and functions that are the same have the same names. -/
theorem Machine.SameNames.of_eq {m m' : Machine} (hs : m'.scopes = m.scopes)
    (hf : m'.functions = m.functions) : m.SameNames m' :=
  ⟨hs ▸ .refl _, fun _ hg => hf ▸ hg⟩

instance : IsPreorder Machine Machine.SameNames where
  refl _ := .of_eq rfl rfl
  trans _ _ _ h h' := ⟨h.scopes.trans h'.scopes, fun g hg => h'.functions g (h.functions g hg)⟩

instance : IsPreorder Machine Machine.Settles where
  refl m := ⟨.refl m.scopes, fun _ h => h⟩
  trans _ _ _ h h' := ⟨h.scopes.trans h'.scopes, fun g hg => h'.functions g (h.functions g hg)⟩

/-! ## The judgement -/

/-- At every end of the execution the machine is related to the one at its start. -/
def Exec.Leads (R : Machine → Machine → Prop) (x : Exec α) : Prop :=
  ∀ m es r m', (x m).Ends es (r, m') → R m m'

namespace Exec.Leads

variable {R : Machine → Machine → Prop} {x : Exec α}

section

variable [IsPreorder Machine R]

/-- A value alone leaves the machine as it is. -/
theorem pure (a : α) : Leads R (Pure.pure a : Exec α) := by
  intro m es r m' h
  obtain ⟨-, -, rfl⟩ := ends_pure_iff.mp h
  exact refl_of R m'

/-- Two executions after another lead where the second one leads from where the first one does. The relation
is a preorder, so both steps make one. -/
theorem bind {f : α → Exec β} (hx : Leads R x) (hf : ∀ a, Leads R (f a)) : Leads R (x >>= f) := by
  intro m es r m' h
  obtain ⟨e, hx', -⟩ | ⟨a, m₁, es₁, es₂, hx', hf', -⟩ := ends_bind_iff.mp h
  · exact hx _ _ _ _ hx'
  · exact trans_of R (hx _ _ _ _ hx') (hf a _ _ _ _ hf')

/-- A failure that is passed on leaves the machine as it is. -/
theorem throw (e : RuntimeError) : Leads R (throw e : Exec α) := by
  intro m es r m' h
  obtain ⟨-, heq⟩ := Process.ends_done_iff.mp h
  obtain ⟨-, rfl⟩ := Prod.mk.inj heq
  exact refl_of R m'

/-- A failure leaves the machine as it is. -/
theorem fail (line : Nat) (cause : RuntimeError.Cause) : Leads R (Exec.fail line cause : Exec α) :=
  throw ⟨cause, line⟩

/-- An effect changes the world and not the machine. -/
theorem perform (e : Effect) : Leads R (Exec.perform e) := by
  intro m es r m' h
  obtain ⟨-, -, -, rfl⟩ := ends_perform_iff.mp h
  exact refl_of R m'

end

/-- Where the depth is spent there is no end to speak of. -/
theorem exhausted : Leads R (Exec.exhausted : Exec α) :=
  fun _ _ _ _ h => absurd h Process.not_ends_exhausted

/-- The machine is read off; what follows may go by it. -/
theorem machine_bind {f : Machine → Exec α} (h : ∀ m, Leads R (f m)) :
    Leads R (Exec.machine >>= f) :=
  fun m => h m m

/-- An execution that keeps all names settles. -/
theorem settles (h : Leads Machine.SameNames x) : Leads Machine.Settles x :=
  fun m es r m' hends => (h m es r m' hends).settles

/-- An operation on values leaves variables and functions alone. -/
theorem of_oblivious (hx : x.Oblivious) :
    Leads (fun m m' => m'.scopes = m.scopes ∧ m'.functions = m.functions) x := by
  intro m es r m' h
  have hbares := hx m
  rw [Process.Ends] at h
  generalize x m = p, x m.bare = p' at h hbares
  induction hbares generalizing es with
  | done hs hf _ =>
    cases h
    exact ⟨hs, hf⟩
  | perform _ _ _ _ ih =>
    cases h with
    | answered h => exact ih _ _ h
  | exhausted => cases h

/-- An execution that does not look at scopes and functions leaves both as they are. -/
theorem oblivious (hx : x.Oblivious) : Leads Machine.SameNames x :=
  fun m es r m' h => .of_eq (of_oblivious hx m es r m' h).1 (of_oblivious hx m es r m' h).2

/-! ## Variables and functions -/

/-- A change of the machine leads where it says. -/
theorem update {f : Machine → Machine} (h : ∀ m, R m (f m)) : Leads R (Exec.update f) := by
  intro m es r m' hends
  obtain ⟨-, heq⟩ := Process.ends_done_iff.mp hends
  obtain ⟨-, rfl⟩ := Prod.mk.inj heq
  exact h m

/-- A declaration adds a name to the innermost scope. -/
theorem declare (name : String) (v : Value) : Leads Machine.Settles (Exec.declare name v) :=
  update fun m => ⟨m.scopes.settles_declare name v, fun _ h => h⟩

/-- A definition adds a function. -/
theorem define (d : FunctionDef Stmt) : Leads Machine.Settles (Exec.define d) :=
  update fun m => ⟨.refl m.scopes, fun g hg => by simp [hg]⟩

/-- A look-up leaves the machine as it is, whether it finds something or not. -/
theorem variableValue (line : Nat) (name : String) :
    Leads Machine.SameNames (Exec.variableValue line name) := by
  refine machine_bind fun m => ?_
  cases m.scopes.find? name with
  | some v => exact pure v
  | none => exact fail _ _

/-- The same of a look-up of a function. -/
theorem functionNamed (line : Nat) (callee : String) :
    Leads Machine.SameNames (Exec.functionNamed line callee) := by
  refine machine_bind fun m => ?_
  cases m.functions.find? callee with
  | some f => exact pure f
  | none => exact fail _ _

/-- An assignment binds no name that was not bound. -/
theorem assignVariable (line : Nat) (name : String) (v : Value) :
    Leads Machine.SameNames (Exec.assignVariable line name v) := by
  intro m es r m' h
  simp only [Exec.assignVariable, Exec.bind_apply, Exec.machine, Process.bind] at h
  cases hassign : m.scopes.assign? name v with
  | some scopes =>
    rw [hassign] at h
    obtain ⟨-, heq⟩ := Process.ends_done_iff.mp h
    obtain ⟨-, rfl⟩ := Prod.mk.inj heq
    exact ⟨Scopes.sameNames_assign? hassign, fun _ h => h⟩
  | none =>
    rw [hassign] at h
    exact fail _ _ _ _ _ _ h

/-! ## Blocks, calls and parallel blocks -/

/-- A scope of its own is left with the names that were there, however the run in it ends: what it declares
goes with it. -/
theorem inScope (h : Leads Machine.Settles x) : Leads Machine.SameNames (Exec.inScope x) := by
  intro m es r m' hends
  obtain ⟨m₁, hx, rfl⟩ := ends_inScope_iff.mp hends
  obtain ⟨hscopes, hfunctions⟩ := h _ _ _ _ hx
  exact ⟨hscopes.pop, hfunctions⟩

/-- A call gives back the scopes that it hid and leaves the names in those that it saw. -/
theorem inCall {d : Nat} (h : Leads Machine.Settles x) :
    Leads Machine.SameNames (Exec.inCall d x) := by
  intro m es r m' hends
  obtain ⟨m₁, hx, rfl⟩ := ends_inCall_iff.mp hends
  obtain ⟨hscopes, hfunctions⟩ := h _ _ _ _ hx
  exact ⟨hscopes.leave, hfunctions⟩

/-- The units have copies of what the machine has, and nothing comes back from them. -/
theorem fork (budget : Nat) (units : List Stmt) :
    Leads Machine.SameNames (Exec.fork budget units) := by
  intro m es r m' hends
  cases hends with
  | joined h =>
    obtain ⟨-, heq⟩ := Process.ends_done_iff.mp h
    obtain ⟨-, rfl⟩ := Prod.mk.inj heq
    exact .of_eq rfl rfl

end Exec.Leads

/-! ## The interpreter -/

open Exec (Leads)

/-- Every function of the interpreter leaves the scopes as it should, at the budget `n`. -/
structure DisciplinedAt (n : Nat) : Prop where
  eval : ∀ e, Leads Machine.SameNames (Exec.eval n e)
  evalAll : ∀ es, Leads Machine.SameNames (Exec.evalAll n es)
  invoke : ∀ f args line, Leads Machine.Settles (Exec.invoke n f args line)
  bindParams : ∀ function ps args line,
    Leads Machine.Settles (Exec.bindParams n function ps args line)
  run : ∀ s, Leads Machine.Settles (Exec.run n s)
  runAll : ∀ ss, Leads Machine.Settles (Exec.runAll n ss)
  test : ∀ e, Leads Machine.SameNames (Exec.test n e)
  assign : ∀ a, Leads Machine.SameNames (Exec.assign n a)
  whileLoop : ∀ condition body, Leads Machine.SameNames (Exec.whileLoop n condition body)
  forLoop : ∀ condition update body,
    Leads Machine.SameNames (Exec.forLoop n condition update body)

namespace DisciplinedAt

variable {n : Nat}

/-- A call of a function declares nothing in the scopes of its caller. -/
theorem call (ih : DisciplinedAt n) (line : Nat) (callee : String) (args : List Expr)
    (hb : Builtin.ofName? callee = none) :
    Leads Machine.SameNames (Exec.eval (n + 1) (.call line callee args)) := by
  rw [Exec.eval_call hb]
  refine .bind (.functionNamed _ _) fun f => ?_
  have hcall : ∀ vs : List Value, Leads Machine.SameNames (do
      Exec.pause (.call line f)
      Exec.inCall f.depth (Exec.invoke n f.definition vs line)) := fun vs =>
    .bind (.perform _) fun _ => .inCall (ih.invoke _ _ _)
  refine .bind (ih.evalAll args) fun vs => ?_
  split
  · exact .bind (.fail _ _) fun _ => hcall vs
  · exact hcall vs

/-- A logical operator declares nothing, whether it evaluates its right operand or not. -/
theorem logical (ih : DisciplinedAt n) (line : Nat) (op : BinaryOp) (left right : Expr) :
    Leads Machine.SameNames (do
      let l ← Exec.expectLogical op line (← Exec.eval n left)
      if l = (op == .or) then return Value.bool l
      else return .bool (← Exec.expectLogical op line (← Exec.eval n right))) := by
  refine .bind (ih.eval left) fun v => .bind (.oblivious (.expectLogical _ _ _)) fun l => ?_
  split
  · exact .pure _
  · refine .bind (ih.eval right) fun v' => ?_
    exact .bind (.oblivious (.expectLogical _ _ _)) fun _ => .pure _

/-- Nor do the other operators. -/
theorem strict (ih : DisciplinedAt n) (line : Nat) (op : BinaryOp) (left right : Expr) :
    Leads Machine.SameNames (do
      let l ← Exec.eval n left
      let r ← Exec.eval n right
      Exec.binaryValue n op l r line) :=
  .bind (ih.eval left) fun _ => .bind (ih.eval right) fun _ => .oblivious (.binaryValue _ _ _ _ _)

/-- An expression keeps all names: one case for each form. -/
theorem eval_succ (ih : DisciplinedAt n) (e : Expr) :
    Leads Machine.SameNames (Exec.eval (n + 1) e) := by
  cases e with
  | number line x => exact .pure _
  | text line s => exact .pure _
  | truth line b => exact .pure _
  | ident line x => exact .variableValue line x
  | binary line op left right =>
    rw [Exec.eval_binary]
    split
    · exact ih.logical line op left right
    · exact ih.strict line op left right
  | unary line op operand =>
    exact .bind (ih.eval operand) fun _ => .oblivious (.unaryValue _ _ _)
  | call line callee args =>
    cases hb : Builtin.ofName? callee with
    | some builtin =>
      rw [Exec.eval_builtin hb]
      exact .bind (ih.evalAll args) fun _ => .oblivious (.callBuiltin _ _ _ _)
    | none => exact ih.call line callee args hb
  | index line base position =>
    refine .bind (ih.eval base) fun _ => .bind (ih.eval position) fun _ => ?_
    exact .bind (.oblivious (.expectNumber _ _)) fun _ => .oblivious (.indexValue _ _ _)
  | array line items => exact .bind (ih.evalAll items) fun _ => .oblivious (.allocate _)

/-- Expressions in turn keep all names. -/
theorem evalAll_succ (ih : DisciplinedAt n) (es : List Expr) :
    Leads Machine.SameNames (Exec.evalAll (n + 1) es) := by
  cases es with
  | nil => exact .pure _
  | cons e rest => exact .bind (ih.eval e) fun _ => .bind (ih.evalAll rest) fun _ => .pure _

/-- A body may declare names, in the scope that the call gives it. -/
theorem invoke_succ (ih : DisciplinedAt n) (f : FunctionDef Stmt) (args : List Value) (line : Nat) :
    Leads Machine.Settles (Exec.invoke (n + 1) f args line) := by
  refine .bind (ih.bindParams _ _ _ _) fun _ => .bind (ih.runAll _) fun flow => ?_
  cases flow with
  | _ => exact .pure _

/-- Each parameter is a declaration in the scope of the call. -/
theorem bindParams_succ (ih : DisciplinedAt n) (function : String) (ps : List Param)
    (args : List Value) (line : Nat) :
    Leads Machine.Settles (Exec.bindParams (n + 1) function ps args line) := by
  cases ps with
  | nil => exact .pure _
  | cons p ps =>
    have hrest : ∀ (v : Value) (args : List Value), Leads Machine.Settles (do
        Exec.declare p.name v
        Exec.bindParams n function ps args line) := fun v args =>
      .bind (.declare _ _) fun _ => ih.bindParams _ _ _ _
    cases args with
    | cons v vs => exact hrest v vs
    | nil =>
      rw [Exec.bindParams_default]
      cases p.default? with
      | some e => exact .bind (ih.eval e).settles fun v => hrest v []
      | none => exact .fail _ _

/-- Statements in turn settle, for each may declare something. -/
theorem runAll_succ (ih : DisciplinedAt n) (ss : List Stmt) :
    Leads Machine.Settles (Exec.runAll (n + 1) ss) := by
  cases ss with
  | nil => exact .pure _
  | cons s rest =>
    refine .bind (ih.run s) fun flow => ?_
    cases flow with
    | normal => exact ih.runAll rest
    | _ => exact .pure _

/-- A condition keeps all names. -/
theorem test_succ (ih : DisciplinedAt n) (e : Expr) :
    Leads Machine.SameNames (Exec.test (n + 1) e) :=
  .bind (ih.eval e) fun _ => .oblivious (.expectCondition _ _)

/-- An assignment binds a name that is there. -/
theorem assign_succ (ih : DisciplinedAt n) (a : Assignment) :
    Leads Machine.SameNames (Exec.assign (n + 1) a) := by
  obtain ⟨line, target, value⟩ := a
  cases target with
  | «variable» l x => exact .bind (ih.eval value) fun _ => .assignVariable _ _ _
  | cell base position =>
    refine .bind (ih.eval base) fun b => ?_
    cases b with
    | array h =>
      refine .bind (ih.eval position) fun _ => .bind (.oblivious (.expectNumber _ _)) fun _ => ?_
      exact .bind (ih.eval value) fun _ => .oblivious (.storeCell _ _ _ _)
    | _ => exact .oblivious (.mismatch _ _)

/-- Rounds of a loop keep all names, since each body has a scope of its own. -/
theorem whileLoop_succ (ih : DisciplinedAt n) (condition : Expr) (body : List Stmt) :
    Leads Machine.SameNames (Exec.whileLoop (n + 1) condition body) := by
  refine .bind (.perform _) fun _ => .bind (ih.test condition) fun holds => ?_
  cases holds with
  | false => exact .pure _
  | true =>
    refine .bind (.inScope (ih.runAll body)) fun flow => ?_
    cases flow with
    | «break» => exact .pure _
    | «return» v => exact .pure _
    | normal => exact ih.whileLoop _ _
    | «continue» => exact ih.whileLoop _ _

/-- So do rounds with an update behind each. -/
theorem forLoop_succ (ih : DisciplinedAt n) (condition : Expr) (update : Assignment)
    (body : List Stmt) : Leads Machine.SameNames (Exec.forLoop (n + 1) condition update body) := by
  have hnext : Leads Machine.SameNames (do
      Exec.assign n update
      Exec.forLoop n condition update body) :=
    .bind (ih.assign update) fun _ => ih.forLoop _ _ _
  refine .bind (.perform _) fun _ => .bind (ih.test condition) fun holds => ?_
  cases holds with
  | false => exact .pure _
  | true =>
    refine .bind (.inScope (ih.runAll body)) fun flow => ?_
    cases flow with
    | «break» => exact .pure _
    | «return» v => exact .pure _
    | normal => exact hnext
    | «continue» => exact hnext

/-- The host and the port of a channel, and what is done with them. -/
theorem endpoint (ih : DisciplinedAt n) (line : Nat) (host port : Expr) {f : String → Nat → Exec α}
    (hf : ∀ s i, Leads Machine.Settles (f s i)) :
    Leads Machine.Settles (do
      let host ← Exec.hostOf line (← Exec.eval n host)
      let port ← Exec.portOf line (← Exec.eval n port)
      f host port) := by
  refine .bind (ih.eval host).settles fun _ => .bind (Leads.oblivious (.hostOf _ _)).settles ?_
  intro h
  refine .bind (ih.eval port).settles fun _ => .bind (Leads.oblivious (.portOf _ _)).settles ?_
  exact fun p => hf h p

/-- **A statement leaves the scopes as it found them**, but for the names that it declares in the
innermost one. -/
theorem run_succ (ih : DisciplinedAt n) (s : Stmt) :
    Leads Machine.Settles (Exec.run (n + 1) s) := by
  have hblock : ∀ ss, Leads Machine.Settles (Exec.inScope (Exec.runAll n ss)) := fun ss =>
    (Leads.inScope (ih.runAll ss)).settles
  refine .bind (.perform _) fun _ => ?_
  cases s with
  | declare line x type value =>
    exact .bind (ih.eval value).settles fun _ => .bind (.declare _ _) fun _ => .pure _
  | assign a => exact .bind (ih.assign a).settles fun _ => .pure _
  | function d => exact .bind (.define d) fun _ => .pure _
  | «return» line value => exact .bind (ih.eval value).settles fun _ => .pure _
  | branch line condition yes no? =>
    refine .bind (ih.test condition).settles fun holds => ?_
    cases holds with
    | true => exact hblock _
    | false =>
      cases no? with
      | some no => exact hblock _
      | none => exact .pure _
  | «while» line condition body => exact (ih.whileLoop _ _).settles
  | «for» line init condition update body =>
    exact (Leads.inScope (.bind (ih.run init) fun _ => (ih.forLoop _ _ _).settles)).settles
  | «break» line => exact .pure _
  | «continue» line => exact .pure _
  | seq body => exact hblock _
  | block body => exact hblock _
  | par units =>
    refine .bind (Leads.oblivious (.shareWith _)).settles fun _ =>
      .bind (Leads.fork _ _).settles fun results => ?_
    obtain heq | ⟨e, -, heq⟩ := Exec.join_cases results
    · exact heq ▸ .pure _
    · exact heq ▸ .throw e
  | expr line value => exact .bind (ih.eval value).settles fun _ => .pure _
  | server ch =>
    refine .bind (ih.eval _).settles fun _ => ih.endpoint _ _ _ fun host port => ?_
    exact .bind (Leads.oblivious (.openServer _ _ _ _)).settles fun _ => .pure _
  | client ch =>
    refine ih.endpoint _ _ _ fun host port => ?_
    exact .bind (Leads.oblivious (.attach _ _ _ _)).settles fun _ => .bind (.declare _ _) fun _ => .pure _

end DisciplinedAt

/-- **Every function of the interpreter is disciplined** at every budget. -/
theorem disciplinedAt (n : Nat) : DisciplinedAt n := by
  induction n with
  | zero =>
    exact ⟨fun _ => .exhausted, fun _ => .exhausted, fun _ _ _ => .exhausted,
      fun _ _ _ _ => .exhausted, fun _ => .exhausted, fun _ => .exhausted, fun _ => .exhausted,
      fun _ => .exhausted, fun _ _ => .exhausted, fun _ _ _ => .exhausted⟩
  | succ n ih =>
    exact ⟨ih.eval_succ, ih.evalAll_succ, ih.invoke_succ, ih.bindParams_succ, ih.run_succ,
      ih.runAll_succ, ih.test_succ, ih.assign_succ, ih.whileLoop_succ, ih.forLoop_succ⟩

/-- A program settles: the names that are there before it are there behind it. -/
theorem runProgram_settles (n : Nat) (ss : List Stmt) :
    Leads Machine.Settles (Exec.runProgram n ss) := by
  induction ss with
  | nil => exact .pure _
  | cons s rest ih => exact .bind ((disciplinedAt n).run s) fun _ => ih

/-! ## Main results -/

/-- **Scopes are restored on every way out**: of a statement, of an expression, and of a call of a
function that was defined at any depth, which leaves the scopes that it hides as they are. -/
theorem Exec.scopes_restored (n : Nat) (m m' : Machine) (es : List Event) :
    (∀ s r, (Exec.run n s m).Ends es (r, m') →
      m'.scopes.depth = m.scopes.depth ∧ m.Settles m') ∧
    (∀ e r, (Exec.eval n e m).Ends es (r, m') →
      m'.scopes.depth = m.scopes.depth ∧ m.SameNames m') ∧
    ∀ (f : Function) args line r,
      (Exec.inCall f.depth (Exec.invoke n f.definition args line) m).Ends es (r, m') →
        m'.scopes.depth = m.scopes.depth ∧
          m'.scopes.above (m.scopes.clamp f.depth) = m.scopes.above (m.scopes.clamp f.depth) := by
  refine ⟨fun s r h => ?_, fun e r h => ?_, fun f args line r h => ?_⟩
  · have hsettles := (disciplinedAt n).run s m es r m' h
    exact ⟨hsettles.scopes.depth_eq, hsettles⟩
  · have hsame := (disciplinedAt n).eval e m es r m' h
    exact ⟨hsame.settles.scopes.depth_eq, hsame⟩
  · obtain ⟨m₁, hinvoke, rfl⟩ := Exec.ends_inCall_iff.mp h
    have hbody := ((disciplinedAt n).invoke f.definition args line _ es r m₁ hinvoke).scopes
    exact ⟨(Scopes.Settles.of_sameNames hbody.leave).depth_eq, hbody.above_leave⟩

/-- A function that assigns to a variable outside, and fails in a block because it does not see the
variables of its caller. -/
def blindFunction : Function where
  definition := ⟨1, "f", [], .named "string", ⟨1, [
    .assign ⟨2, .variable 2 "g", .text 2 "new"⟩,
    .block ⟨3, [
      .declare 4 "y" (.named "string") (.text 4 "local"),
      .return 5 (.ident 5 "x")]⟩]⟩⟩
  depth := 1

/-- A caller of it, in a scope with a variable of its own. -/
def blindCaller : Machine :=
  { Machine.initial with
    scopes := (Scopes.new.declare "g" (.text "old")).push.declare "x" (.text "own")
    functions := NameMap.empty.insert "f" blindFunction }

/-- A loop with the call fails in its first round, and the call brings the hidden scope back. -/
theorem scopes_restored_blindCaller :
    (∃ es e m', (Exec.run 20 (.while 6 (.truth 6 true) ⟨6, [.expr 7 (.call 7 "f" [])]⟩)
      blindCaller).Ends es (.error e, m') ∧ m'.scopes.depth = 2 ∧ blindCaller.Settles m') ∧
    (∃ es e m', (Exec.eval 20 (.call 7 "f" []) blindCaller).Ends es (.error e, m') ∧
      m'.scopes.depth = 2 ∧ blindCaller.SameNames m') ∧
    ∃ es e m', (Exec.inCall 1 (Exec.invoke 20 blindFunction.definition [] 7) blindCaller).Ends es
      (.error e, m') ∧ m'.scopes.depth = 2 ∧ m'.scopes.above 1 = blindCaller.scopes.above 1 := by
  refine ⟨?_, ?_, ?_⟩
  · obtain ⟨es, ⟨r, m'⟩, hends, hr⟩ := Process.exists_ends (n := 20) (P := (!·.1.isOk))
      (p := Exec.run 20 (.while 6 (.truth 6 true) ⟨6, [.expr 7 (.call 7 "f" [])]⟩) blindCaller) rfl
    cases r with
    | ok _ => cases hr
    | error e => exact ⟨es, e, m', hends, (Exec.scopes_restored _ _ _ _).1 _ _ hends⟩
  · obtain ⟨es, ⟨r, m'⟩, hends, hr⟩ := Process.exists_ends (n := 20) (P := (!·.1.isOk))
      (p := Exec.eval 20 (.call 7 "f" []) blindCaller) rfl
    cases r with
    | ok _ => cases hr
    | error e => exact ⟨es, e, m', hends, (Exec.scopes_restored _ _ _ _).2.1 _ _ hends⟩
  · obtain ⟨es, ⟨r, m'⟩, hends, hr⟩ := Process.exists_ends (n := 20) (P := (!·.1.isOk))
      (p := Exec.inCall 1 (Exec.invoke 20 blindFunction.definition [] 7) blindCaller) rfl
    cases r with
    | ok _ => cases hr
    | error e =>
      exact ⟨es, e, m', hends, (Exec.scopes_restored _ _ _ _).2.2 blindFunction [] 7 _ hends⟩

/-- A session goes on with the scopes that it had, also behind a program that failed. -/
theorem Session.run_settles (s : Session) (p : Program) : s.machine.Settles (s.run p).2.machine := by
  have hends : ∀ {r : UnitResult} {m : Machine} {w : World},
      Task.runSteps stepLimit (.start 0 (Exec.runProgram depthBudget p.statements) s.machine)
        s.world = .finished r m w → s.machine.Settles m := by
    intro r m w hrun
    obtain ⟨clock, hreaches⟩ := Task.reaches_of_runSteps hrun
    obtain ⟨es, h⟩ := Task.ends_of_reaches hreaches
    exact runProgram_settles _ _ _ _ _ _ h
  rw [Session.run]
  split
  · next hrun => exact hends hrun
  · next hrun => exact hends hrun
  · exact refl_of Machine.Settles s.machine

end ParLang
