import Mathlib.Order.CompleteBooleanAlgebra
import Mathlib.Order.CompletePartialOrder
import ParLang.Proofs.Execution.Oblivious
import ParLang.Proofs.Soundness.Store
import ParLang.Proofs.Typing.Inversion

/-!
# Every function that is called is defined

The checker forgets the functions of a block behind it. A run has one table of functions, which a
definition overwrites and nothing shrinks, so a name may come to stand for a function that the checker
did not mean. It never comes to stand for none: whichever function the table has under a name, the
names that were visible at its definition are in the table, too (`Machine.Closed`), and they stay there.
A unit of a parallel block starts with a copy of the table.
-/

namespace ParLang

variable {α β : Type}

/-! ## Tables of functions -/

/-- The machine has a function for every name that the checker sees. -/
def Machine.Has (m : Machine) (names : Names) : Prop :=
  ∀ g, names.functions.contains g → m.functions.contains g

/-- Each function was accepted at its definition, and the names that were visible in it are there. -/
def Machine.Closed (m : Machine) : Prop :=
  ∀ g f, m.functions.find? g = some f →
    ∃ c c', Check.statement (.function f.definition) c = (.ok (), c') ∧ m.Has c'.names

/-- What is defined stays so when the table grows. -/
theorem Machine.Has.trans {m m' : Machine} {names : Names} (h : m.Has names)
    (hm : ∀ g, m.functions.contains g → m'.functions.contains g) : m'.Has names :=
  fun g hg => hm g (h g hg)

/-- A definition in a context that the machine has. -/
theorem Machine.Closed.define {m : Machine} {c c' : Context} {d : FunctionDef Stmt} (depth : Nat)
    (h : m.Closed) (hd : Check.statement (.function d) c = (.ok (), c')) (hc : m.Has c.names) :
    Machine.Closed { m with functions := m.functions.insert d.name ⟨d, depth⟩ } ∧
      Machine.Has { m with functions := m.functions.insert d.name ⟨d, depth⟩ } c'.names := by
  have hgrows : ∀ g, m.functions.contains g → (m.functions.insert d.name ⟨d, depth⟩).contains g :=
    fun g hg => by simp [hg]
  have hc' : Machine.Has { m with functions := m.functions.insert d.name ⟨d, depth⟩ } c'.names := by
    cases Check.accepts_of_statement hd with
    | function _ _ _ _ =>
      intro g hg
      simp only [Context.defined, NameMap.contains_insert, Bool.or_eq_true] at hg ⊢
      exact hg.imp_right fun hg => hc g hg
  refine ⟨fun g f hf => ?_, hc'⟩
  simp only [NameMap.find?_insert] at hf
  split at hf
  · obtain rfl := Option.some.inj hf
    exact ⟨c, c', hd, hc'⟩
  · obtain ⟨c₁, c₁', hf', hc₁⟩ := h g f hf
    exact ⟨c₁, c₁', hf', hc₁.trans hgrows⟩

/-! ## The judgement -/

/-- The failure is not that a function is undefined. -/
def RuntimeError.FindsFunction (e : RuntimeError) : Prop :=
  ∀ f, e.cause ≠ .undefinedFunction f

/-- A failure that is not about a missing name or function is not about a missing function. -/
theorem RuntimeError.findsFunction_of_resolved {e : RuntimeError} (h : e.cause.unresolved = false) :
    e.FindsFunction := by
  intro f hf
  rw [hf] at h
  cases h

/-- Units show machines whose tables are closed, start units that the checker has accepted, and do not
fail for want of a function. -/
def functionProtocol : Protocol Unit Unit where
  machine _ m := m.Closed
  request _ _ _ _ := True
  reply _ _ _ _ := True
  fork _ f := f.machine.Closed ∧ ∃ c : Context, f.machine.Has c.names ∧
    ∀ s ∈ f.units, ∃ c₁, Check.statement s c.inUnit = (.ok (), c₁)
  result r := ∀ e, r = .error e → e.FindsFunction
  world _ _ := True
  machine_mono _ h := h
  request_mono _ h := h
  fork_mono _ h := h
  fork_machine h := h.1
  answer _ _ _ := ⟨(), le_rfl, trivial, trivial⟩
  outside _ _ _ := trivial
  around _ _ := trivial
  panic _ := by rintro _ ⟨⟩ _ ⟨⟩

/-- What holds behind an execution that began with `m`; `Q` says more about the machine behind one that
does not fail. -/
structure Retains (m : Machine) (Q : Machine → Prop) (r : Except RuntimeError α) (m' : Machine) :
    Prop where
  closed : m'.Closed
  grows : ∀ g, m.functions.contains g → m'.functions.contains g
  result : ∀ a, r = .ok a → Q m'
  failure : ∀ e, r = .error e → e.FindsFunction

/-- From a machine whose table is closed, the execution calls only functions that are defined. -/
def Finds (m : Machine) (x : Exec α) (Q : Machine → Prop) : Prop :=
  m.Closed → x.Keeps functionProtocol (fun _ r m' => Retains m Q r m') () m

namespace Finds

variable {m : Machine} {x : Exec α} {Q R : Machine → Prop}

/-- What does nothing calls nothing. -/
theorem pure {a : α} (h : Q m) : Finds m (Pure.pure a) Q := fun hm =>
  ⟨hm, fun _ => id, fun _ _ => h, fun _ he => nomatch he⟩

/-- Less may be said of the machine at the end. -/
theorem weaken (h : Finds m x Q)
    (hQ : ∀ m', (∀ g, m.functions.contains g → m'.functions.contains g) → Q m' → R m') :
    Finds m x R := by
  intro hm
  refine Process.Keeps.weaken (h hm) ?_
  rintro _ ⟨r, m'⟩ - ⟨hclosed, hgrows, hok, herr⟩
  exact ⟨hclosed, hgrows, fun a ha => hQ m' hgrows (hok a ha), herr⟩

/-- A sequence. The table has only grown when the second part starts. -/
theorem bind {f : α → Exec β} (hx : Finds m x Q)
    (hf : ∀ a m', (∀ g, m.functions.contains g → m'.functions.contains g) → Q m' →
      Finds m' (f a) R) : Finds m (x >>= f) R := by
  intro hm
  rw [Exec.Keeps, Exec.bind_apply, Process.keeps_bind]
  refine Process.Keeps.weaken (hx hm) ?_
  rintro _ ⟨e | a, m₁⟩ - ⟨hclosed, hgrows, hok, herr⟩
  · refine ⟨hclosed, hgrows, ?_, ?_⟩
    · rintro _ ⟨⟩
    · rintro _ ⟨⟩; exact herr e rfl
  · refine Process.Keeps.weaken (hf a m₁ hgrows (hok a rfl) hclosed) ?_
    rintro _ ⟨r, m₂⟩ - ⟨hclosed₂, hgrows₂, hok₂, herr₂⟩
    exact ⟨hclosed₂, fun g hg => hgrows₂ g (hgrows g hg), hok₂, herr₂⟩

/-- A run out of depth calls nothing. -/
theorem exhausted : Finds m (Exec.exhausted : Exec α) Q := fun _ => trivial

/-- A failure may be thrown if it is not about a missing function. -/
theorem throw {e : RuntimeError} (he : e.FindsFunction) : Finds m (throw e : Exec α) Q := fun hm =>
  ⟨hm, fun _ => id, fun _ h => (nomatch h), fun _ h => by cases h; exact he⟩

/-- The machine is read as it is. -/
theorem machine_bind {f : Machine → Exec α} (h : Finds m (f m) Q) :
    Finds m (Exec.machine >>= f) Q := h

/-- An operation on values leaves the functions alone. -/
theorem oblivious (hx : x.Oblivious) (hQ : ∀ m', m'.functions = m.functions → Q m') :
    Finds m x Q := by
  intro hm
  have h := hx m
  rw [Exec.Keeps]
  generalize x m = p, x m.bare = p' at h
  have hclosed : ∀ {m' : Machine}, m'.functions = m.functions → m'.Closed := by
    intro m' hf g f hg
    obtain ⟨c, c', hd, hc⟩ := hm g f (hf ▸ hg)
    exact ⟨c, c', hd, hc.trans fun g hg => hf ▸ hg⟩
  induction h with
  | done _ hf he =>
    exact ⟨hclosed hf, fun g hg => hf ▸ hg, fun _ _ => hQ _ hf,
      fun e h => RuntimeError.findsFunction_of_resolved (he e h)⟩
  | perform _ hf _ _ ih => exact ⟨hclosed hf, (), trivial, fun _ r _ _ => ih r⟩
  | exhausted => trivial

/-- A pause changes no table. -/
theorem pause {here : Checkpoint} : Finds m (Exec.pause here) fun m' => m' = m := fun hm =>
  ⟨hm, (), trivial, fun _ _ _ _ => ⟨hm, fun _ => id, fun _ _ => rfl, fun _ he => nomatch he⟩⟩

/-- Scopes play no part. -/
theorem setScopes (f : Machine → Scopes Value) :
    Finds m (Exec.update fun m => { m with scopes := f m }) fun _ => True :=
  fun hm => ⟨hm, fun _ => id, fun _ _ => trivial, fun _ he => nomatch he⟩

/-- A declared name is no function. -/
theorem declare {name : String} {v : Value} : Finds m (Exec.declare name v) fun _ => True :=
  setScopes _

/-- A variable that is looked up may be missing, but that is not a function that is. -/
theorem variableValue {line : Nat} {name : String} :
    Finds m (Exec.variableValue line name) fun m' => m' = m := by
  refine machine_bind ?_
  cases m.scopes.find? name with
  | some v => exact pure rfl
  | none => exact throw (e := ⟨.undeclaredVariable name, line⟩) fun _ h => nomatch h

/-- What follows on a function that is in the table knows where it was accepted. -/
theorem functionNamed_bind {line : Nat} {name : String} {f : Function} {g : Function → Exec α}
    (hf : m.functions.find? name = some f)
    (h : ∀ c c', Check.statement (.function f.definition) c = (.ok (), c') → m.Has c'.names →
      Finds m (g f) Q) : Finds m (Exec.functionNamed line name >>= g) Q := by
  intro hm
  obtain ⟨c, c', haccepted, hc'⟩ := hm name f hf
  have happly : (Exec.functionNamed line name >>= g) m = g f m := by
    simp only [Exec.functionNamed, Exec.machine, Exec.bind_apply, Process.bind, hf]
    rfl
  rw [Exec.Keeps, happly]
  exact h c c' haccepted hc' hm

/-- So it is with one that is assigned. -/
theorem assignVariable {line : Nat} {name : String} {v : Value} :
    Finds m (Exec.assignVariable line name v) fun _ => True := by
  refine machine_bind ?_
  cases m.scopes.assign? name v with
  | some scopes => exact setScopes fun _ => scopes
  | none => exact throw (e := ⟨.undeclaredVariable name, line⟩) fun _ h => nomatch h

/-- Functions that are defined in a block stay in the table. -/
theorem inScope (h : Finds { m with scopes := m.scopes.push } x fun _ => True) :
    Finds m (Exec.inScope x) fun _ => True := by
  intro hm
  rw [Exec.Keeps, Exec.inScope, Process.keeps_bind]
  refine Process.Keeps.weaken (h hm) ?_
  rintro _ ⟨r, m'⟩ - ⟨hclosed, hgrows, -, herr⟩
  exact ⟨hclosed, hgrows, fun _ _ => trivial, herr⟩

/-- Those that are defined in a call stay too. -/
theorem inCall {depth : Nat}
    (h : Finds { m with scopes := (m.scopes.enter depth).2 } x fun _ => True) :
    Finds m (Exec.inCall depth x) fun _ => True := by
  intro hm
  show ((x _).bind _).Keeps _ _ _
  rw [Process.keeps_bind]
  refine Process.Keeps.weaken (h hm) ?_
  rintro _ ⟨r, m'⟩ - ⟨hclosed, hgrows, -, herr⟩
  exact ⟨hclosed, hgrows, fun _ _ => trivial, herr⟩

/-- A definition makes its name known, and its body was accepted where that is so. -/
theorem define {c c' : Context} {d : FunctionDef Stmt}
    (hd : Check.statement (.function d) c = (.ok (), c')) (hc : m.Has c.names) :
    Finds m (Exec.define d) fun m' => m'.Has c'.names := by
  intro hm
  obtain ⟨hclosed, hc'⟩ := hm.define m.scopes.depth hd hc
  exact ⟨hclosed, fun g hg => by simp [hg], fun _ _ => hc', fun _ he => nomatch he⟩

/-- A parallel block fails as one of its units does. -/
theorem fork_join {budget : Nat} {units : List Stmt} {c : Context} (hc : m.Has c.names)
    (hunits : ∀ s ∈ units, ∃ c₁, Check.statement s c.inUnit = (.ok (), c₁)) :
    Finds m (Exec.fork budget units >>= Exec.join) fun _ => True := by
  intro hm
  refine ⟨⟨hm, c, hc, hunits⟩, fun _ rs _ hrs => ?_⟩
  show Process.Keeps _ _ _ (Exec.join rs { m with forks := m.forks + 1 })
  obtain hjoin | ⟨e, he, hjoin⟩ := Exec.join_cases rs
  · rw [hjoin]
    exact ⟨hm, fun _ => id, fun _ _ => trivial, fun _ he => nomatch he⟩
  · rw [hjoin]
    refine ⟨hm, fun _ => id, fun _ h => (nomatch h), ?_⟩
    rintro _ ⟨⟩
    exact hrs _ he e rfl

end Finds

/-! ## The interpreter -/

variable {m : Machine} {n : Nat} {names : Names} {c c' : Context}

/-- Every function of the interpreter finds the functions that it calls, at the budget `n`. -/
structure FindsAt (n : Nat) : Prop where
  eval : ∀ {m names e}, Expr.Typed names e → m.Has names → Finds m (Exec.eval n e) fun _ => True
  evalAll : ∀ {m names es}, (∀ e ∈ es, Expr.Typed names e) → m.Has names →
    Finds m (Exec.evalAll n es) fun _ => True
  invoke : ∀ {m c c' f args line}, Check.statement (.function f) c = (.ok (), c') →
    m.Has c'.names → Finds m (Exec.invoke n f args line) fun _ => True
  bindParams : ∀ {m c function ps args line}, DefaultsTyped c ps → m.Has c.names →
    Finds m (Exec.bindParams n function ps args line) fun _ => True
  run : ∀ {m c c' s}, Check.statement s c = (.ok (), c') → m.Has c.names →
    Finds m (Exec.run n s) fun m' => m'.Has c'.names
  runAll : ∀ {m c c' ss}, Check.statements ss c = (.ok (), c') → m.Has c.names →
    Finds m (Exec.runAll n ss) fun _ => True
  test : ∀ {m names e}, Expr.Typed names e → m.Has names → Finds m (Exec.test n e) fun _ => True
  assign : ∀ {m names a}, Assignment.Typed names a → m.Has names →
    Finds m (Exec.assign n a) fun _ => True
  whileLoop : ∀ {m} {c c' : Context} {condition body}, Expr.Typed c.names condition →
    Check.statements body c.inLoop.opened = (.ok (), c') → m.Has c.names →
    Finds m (Exec.whileLoop n condition body) fun _ => True
  forLoop : ∀ {m} {c c' : Context} {condition update body}, Expr.Typed c.names condition →
    Assignment.Typed c.names update → Check.statements body c.inLoop = (.ok (), c') →
    m.Has c.names → Finds m (Exec.forLoop n condition update body) fun _ => True

namespace FindsAt

/-- Expressions in a list, one after the other. -/
theorem evalAll_succ {es : List Expr} (ih : FindsAt n) (hes : ∀ e ∈ es, e.Typed names)
    (hm : m.Has names) : Finds m (Exec.evalAll (n + 1) es) fun _ => True := by
  cases es with
  | nil => exact .pure trivial
  | cons e rest =>
    obtain ⟨he, hrest⟩ := List.forall_mem_cons.mp hes
    refine .bind (ih.eval he hm) fun v m₁ hg₁ _ => ?_
    exact .bind (ih.evalAll hrest (hm.trans hg₁)) fun _ _ _ _ => .pure trivial

/-- A call of a function of the program: the name is visible, so the table has it, and what it has was
accepted where all that is visible is in the table. -/
theorem call {line : Nat} {callee : String} {args : List Expr} (ih : FindsAt n)
    (hb : Builtin.ofName? callee = none) (hvisible : names.functions.contains callee)
    (hargs : ∀ e ∈ args, e.Typed names) (hm : m.Has names) :
    Finds m (Exec.eval (n + 1) (.call line callee args)) fun _ => True := by
  obtain ⟨f, hf⟩ := NameMap.contains_iff.mp (hm callee hvisible)
  rw [Exec.eval_call hb]
  refine .functionNamed_bind hf fun c c' haccepted hc' => ?_
  have hcall : ∀ {m₁ : Machine} (vs : List Value), m₁.Has c'.names → Finds m₁ (do
      Exec.pause (.call line f)
      Exec.inCall f.depth (Exec.invoke n f.definition vs line)) fun _ => True := by
    intro m₁ vs hm₁
    refine .bind .pause ?_
    rintro _ _ - rfl
    exact .inCall (ih.invoke haccepted hm₁)
  refine .bind (ih.evalAll hargs hm) fun vs m₁ hg₁ _ => ?_
  split
  · exact .bind (.oblivious (Q := fun m' => m'.functions = m₁.functions) (.mismatch _ _)
      fun _ h => h) fun _ m₂ hg₂ _ => hcall vs ((hc'.trans hg₁).trans hg₂)
  · exact hcall vs (hc'.trans hg₁)

/-- An operator, of which the right operand may be left out. -/
theorem binary {line : Nat} {op : BinaryOp} {left right : Expr} (ih : FindsAt n)
    (hl : left.Typed names) (hr : right.Typed names) (hm : m.Has names) :
    Finds m (Exec.eval (n + 1) (.binary line op left right)) fun _ => True := by
  rw [Exec.eval_binary]
  split
  · have hexpect : ∀ {m₁ v}, Finds m₁ (Exec.expectLogical op line v) fun _ => True :=
      .oblivious (.expectLogical _ _ _) fun _ _ => trivial
    refine .bind (ih.eval hl hm) fun v m₁ hg₁ _ => .bind hexpect fun l m₂ hg₂ _ => ?_
    split
    · exact .pure trivial
    · refine .bind (ih.eval hr ((hm.trans hg₁).trans hg₂)) fun v' m₃ _ _ => ?_
      exact .bind hexpect fun _ _ _ _ => .pure trivial
  · refine .bind (ih.eval hl hm) fun l m₁ hg₁ _ => ?_
    refine .bind (ih.eval hr (hm.trans hg₁)) fun r m₂ _ _ => ?_
    exact .oblivious (.binaryValue _ _ _ _ _) fun _ _ => trivial

/-- An expression. The call is the case in which a function has to be there, for the checker found its name.
-/
theorem eval_succ {e : Expr} (ih : FindsAt n) (he : e.Typed names) (hm : m.Has names) :
    Finds m (Exec.eval (n + 1) e) fun _ => True := by
  cases e with
  | number line x => exact .pure trivial
  | text line s => exact .pure trivial
  | truth line b => exact .pure trivial
  | ident line x => exact Finds.variableValue.weaken fun _ _ _ => trivial
  | binary line op left right =>
    obtain ⟨hl, hr⟩ := he.binary
    exact ih.binary hl hr hm
  | unary line op operand =>
    refine .bind (ih.eval he.unary hm) fun v m₁ _ _ => ?_
    exact .oblivious (.unaryValue _ _ _) fun _ _ => trivial
  | call line callee args =>
    obtain ⟨hargs, hvisible⟩ := he.call
    cases hb : Builtin.ofName? callee with
    | some builtin =>
      rw [Exec.eval_builtin hb]
      refine .bind (ih.evalAll hargs hm) fun vs m₁ _ _ => ?_
      exact .oblivious (.callBuiltin _ _ _ _) fun _ _ => trivial
    | none => exact ih.call hb (hvisible hb) hargs hm
  | index line base position =>
    obtain ⟨hbase, hposition⟩ := he.index
    refine .bind (ih.eval hbase hm) fun b m₁ hg₁ _ => ?_
    refine .bind (ih.eval hposition (hm.trans hg₁)) fun p m₂ _ _ => ?_
    refine .bind (.oblivious (Q := fun _ => True) (.expectNumber _ _) fun _ _ => trivial)
      fun raw m₃ _ _ => ?_
    exact .oblivious (.indexValue _ _ _) fun _ _ => trivial
  | array line items =>
    refine .bind (ih.evalAll he.array hm) fun vs m₁ _ _ => ?_
    exact .oblivious (.allocate _) fun _ _ => trivial

/-- The body of a function runs on a table that has the names of its definition and its own. -/
theorem invoke_succ {f : FunctionDef Stmt} {args : List Value} {line : Nat} (ih : FindsAt n)
    (hf : Check.statement (.function f) c = (.ok (), c')) (hm : m.Has c'.names) :
    Finds m (Exec.invoke (n + 1) f args line) fun _ => True := by
  cases Check.accepts_of_statement hf with
  | @function _ s _ _ _ hdefaults hbody =>
    have hbodyNames : ∀ (ps : List Param) (c : Context),
        (c.withParams ps).names.functions = c.names.functions := by
      intro ps
      induction ps with
      | nil => exact fun _ => rfl
      | cons p ps ih => exact fun c => ih _
    have hm : m.Has (c.inFunction f.name s).names := hm
    refine .bind (ih.bindParams hdefaults hm) fun _ m₁ hg₁ _ => ?_
    refine .bind (ih.runAll hbody ?_) fun flow m₂ _ _ => ?_
    · intro g hg
      rw [hbodyNames] at hg
      exact hg₁ g (hm g hg)
    · cases flow with
      | _ => exact .pure trivial

/-- Defaults of parameters are evaluated where the parameters are. -/
theorem bindParams_succ {function : String} {ps : List Param} {args : List Value} {line : Nat}
    (ih : FindsAt n) (hps : DefaultsTyped c ps) (hm : m.Has c.names) :
    Finds m (Exec.bindParams (n + 1) function ps args line) fun _ => True := by
  cases ps with
  | nil => exact .pure trivial
  | cons p ps =>
    obtain ⟨hdefault, hps⟩ := hps
    have hrest : ∀ {m₁ : Machine} (v : Value) (args : List Value), m₁.Has c.names → Finds m₁ (do
        Exec.declare p.name v
        Exec.bindParams n function ps args line) fun _ => True := by
      intro m₁ v args hm₁
      refine .bind .declare fun _ m₂ hg₂ _ => ?_
      exact ih.bindParams hps (hm₁.trans hg₂)
    cases args with
    | cons v vs => exact hrest v vs hm
    | nil =>
      rw [Exec.bindParams_default]
      cases he : p.default? with
      | some e => exact .bind (ih.eval (hdefault e he) hm) fun v m₁ hg₁ _ => hrest v [] (hm.trans hg₁)
      | none => exact .oblivious (.mismatch _ _) fun _ _ => trivial

/-- A condition. -/
theorem test_succ {e : Expr} (ih : FindsAt n) (he : e.Typed names) (hm : m.Has names) :
    Finds m (Exec.test (n + 1) e) fun _ => True := by
  refine .bind (ih.eval he hm) fun v m₁ _ _ => ?_
  exact .oblivious (.expectCondition _ _) fun _ _ => trivial

/-- An assignment to a name or to a cell. -/
theorem assign_succ {a : Assignment} (ih : FindsAt n) (ha : a.Typed names) (hm : m.Has names) :
    Finds m (Exec.assign (n + 1) a) fun _ => True := by
  cases ha with
  | «variable» _ hv => exact .bind (ih.eval hv hm) fun v m₁ _ _ => .assignVariable
  | cell hb hp hv =>
    refine .bind (ih.eval hb hm) fun b m₁ hg₁ _ => ?_
    have hm₁ := hm.trans hg₁
    cases b with
    | array h =>
      refine .bind (ih.eval hp hm₁) fun p m₂ hg₂ _ => ?_
      refine .bind (.oblivious (Q := fun _ => True) (.expectNumber _ _) fun _ _ => trivial)
        fun raw m₃ hg₃ _ => ?_
      refine .bind (ih.eval hv ((hm₁.trans hg₂).trans hg₃)) fun v m₄ _ _ => ?_
      exact .oblivious (.storeCell _ _ _ _) fun _ _ => trivial
    | _ => exact .oblivious (.mismatch _ _) fun _ _ => trivial

/-- Statements in sequence: what the first one defines is there for the others. -/
theorem runAll_succ {ss : List Stmt} (ih : FindsAt n) (hss : Check.statements ss c = (.ok (), c'))
    (hm : m.Has c.names) : Finds m (Exec.runAll (n + 1) ss) fun _ => True := by
  cases ss with
  | nil => exact .pure trivial
  | cons s rest =>
    obtain ⟨c₁, hs, hrest⟩ := Check.statements_cons hss
    refine .bind (ih.run hs hm) fun flow m₁ _ hm₁ => ?_
    cases flow with
    | normal => exact ih.runAll hrest hm₁
    | _ => exact .pure trivial

/-- A loop, in each of whose rounds the table has what it had at first. -/
theorem whileLoop_succ {condition : Expr} {body : List Stmt} (ih : FindsAt n)
    (hc : condition.Typed c.names) (hbody : Check.statements body c.inLoop.opened = (.ok (), c'))
    (hm : m.Has c.names) : Finds m (Exec.whileLoop (n + 1) condition body) fun _ => True := by
  refine .bind .pause ?_
  rintro _ _ - rfl
  refine .bind (ih.test hc hm) fun holds m₂ hg₂ _ => ?_
  have hm₂ := hm.trans hg₂
  cases holds with
  | false => exact .pure trivial
  | true =>
    refine .bind (.inScope (ih.runAll hbody hm₂)) fun flow m₃ hg₃ _ => ?_
    cases flow with
    | «break» => exact .pure trivial
    | «return» v => exact .pure trivial
    | normal => exact ih.whileLoop hc hbody (hm₂.trans hg₃)
    | «continue» => exact ih.whileLoop hc hbody (hm₂.trans hg₃)

/-- A loop with an update. -/
theorem forLoop_succ {condition : Expr} {update : Assignment} {body : List Stmt} (ih : FindsAt n)
    (hc : condition.Typed c.names) (hu : update.Typed c.names)
    (hbody : Check.statements body c.inLoop = (.ok (), c')) (hm : m.Has c.names) :
    Finds m (Exec.forLoop (n + 1) condition update body) fun _ => True := by
  refine .bind .pause ?_
  rintro _ _ - rfl
  refine .bind (ih.test hc hm) fun holds m₂ hg₂ _ => ?_
  have hm₂ := hm.trans hg₂
  have hnext : ∀ {m₃ : Machine}, m₃.Has c.names → Finds m₃ (do
      Exec.assign n update
      Exec.forLoop n condition update body) fun _ => True := fun hm₃ =>
    .bind (ih.assign hu hm₃) fun _ _ hg₄ _ => ih.forLoop hc hu hbody (hm₃.trans hg₄)
  cases holds with
  | false => exact .pure trivial
  | true =>
    refine .bind (.inScope (ih.runAll hbody hm₂)) fun flow m₃ hg₃ _ => ?_
    cases flow with
    | «break» => exact .pure trivial
    | «return» v => exact .pure trivial
    | normal => exact hnext (hm₂.trans hg₃)
    | «continue» => exact hnext (hm₂.trans hg₃)

/-- What the checker sees stays defined behind a statement that defines nothing. -/
theorem keeps {x : Exec α} {Q : Machine → Prop} (h : Finds m x Q) (hm : m.Has names) :
    Finds m x fun m' => m'.Has names :=
  h.weaken fun _ hg _ => hm.trans hg

/-- The host and the port of a channel, and what is done with them. -/
theorem endpoint {line : Nat} {host port : Expr} {f : String → Nat → Exec α} {Q : Machine → Prop}
    (ih : FindsAt n) (hh : host.Typed names) (hp : port.Typed names) (hm : m.Has names)
    (hf : ∀ {m'} s i, m'.Has names → Finds m' (f s i) Q) :
    Finds m (do
      let host ← Exec.hostOf line (← Exec.eval n host)
      let port ← Exec.portOf line (← Exec.eval n port)
      f host port) Q := by
  refine .bind (ih.eval hh hm) fun h m₁ hg₁ _ => ?_
  refine .bind (.oblivious (Q := fun _ => True) (.hostOf _ _) fun _ _ => trivial)
    fun host m₂ hg₂ _ => ?_
  have hm₂ := (hm.trans hg₁).trans hg₂
  refine .bind (ih.eval hp hm₂) fun p m₃ hg₃ _ => ?_
  refine .bind (.oblivious (Q := fun _ => True) (.portOf _ _) fun _ _ => trivial)
    fun port m₄ hg₄ _ => ?_
  exact hf host port ((hm₂.trans hg₃).trans hg₄)

/-- **A statement finds the functions that it calls**, and those that the checker sees behind it are
there. -/
theorem run_succ {s : Stmt} (ih : FindsAt n) (hs : Check.statement s c = (.ok (), c'))
    (hm : m.Has c.names) : Finds m (Exec.run (n + 1) s) fun m' => m'.Has c'.names := by
  refine .bind .pause ?_
  rintro _ _ - rfl
  cases Check.accepts_of_statement hs with
  | declare _ hv _ =>
    refine .bind (ih.eval ⟨_, hv⟩ hm) fun v m₂ hg₂ _ => ?_
    exact .bind .declare fun _ m₃ hg₃ _ => .pure ((hm.trans hg₂).trans hg₃)
  | assign ha =>
    refine .bind (ih.assign (Assignment.Typed.of_assignment ha).1 hm) fun _ m₂ hg₂ _ => ?_
    exact .pure (hm.trans hg₂)
  | function _ _ _ _ => exact .bind (.define hs hm) fun _ m₂ _ hm₂ => .pure hm₂
  | «return» _ hv => exact .bind (ih.eval ⟨_, hv⟩ hm) fun v m₂ hg₂ _ => .pure (hm.trans hg₂)
  | branch hc hyes =>
    refine .bind (ih.test ⟨_, hc⟩ hm) fun holds m₂ hg₂ _ => ?_
    have hm₂ := hm.trans hg₂
    cases holds with
    | true => exact keeps (.inScope (ih.runAll hyes hm₂)) hm₂
    | false => exact .pure hm₂
  | branchElse hc hyes hno =>
    refine .bind (ih.test ⟨_, hc⟩ hm) fun holds m₂ hg₂ _ => ?_
    have hm₂ := hm.trans hg₂
    cases holds with
    | true => exact keeps (.inScope (ih.runAll hyes hm₂)) hm₂
    | false => exact keeps (.inScope (ih.runAll hno hm₂)) hm₂
  | «while» hc hbody => exact keeps (ih.whileLoop ⟨_, hc⟩ hbody hm) hm
  | «for» hinit hc hu hbody =>
    refine keeps (.inScope (.bind (ih.run hinit hm) fun _ m₂ _ hm₂ => ?_)) hm
    exact ih.forLoop ⟨_, hc⟩ (Assignment.Typed.of_assignment hu).1 hbody hm₂
  | «break» _ => exact .pure hm
  | «continue» _ => exact .pure hm
  | seq hbody => exact keeps (.inScope (ih.runAll hbody hm)) hm
  | block hbody => exact keeps (.inScope (ih.runAll hbody hm)) hm
  | par hunits =>
    refine keeps (Q := fun _ => True) (.bind (.oblivious (Q := fun _ => True) (.shareWith _)
      fun _ _ => trivial) fun _ m₁ hg₁ _ => ?_) hm
    exact .fork_join (hm.trans hg₁) hunits
  | expr hv => exact .bind (ih.eval ⟨_, hv⟩ hm) fun _ m₂ hg₂ _ => .pure (hm.trans hg₂)
  | server hd hh hp =>
    refine .bind (ih.eval ⟨_, hd⟩ hm) fun _ m₂ hg₂ _ => ?_
    refine ih.endpoint ⟨_, hh⟩ ⟨_, hp⟩ (hm.trans hg₂) fun host port hm₃ => ?_
    exact .bind (keeps (.oblivious (.openServer _ _ _ _) fun _ _ => trivial) hm₃)
      fun _ m₄ _ hm₄ => .pure hm₄
  | client hh hp =>
    refine ih.endpoint ⟨_, hh⟩ ⟨_, hp⟩ hm fun host port hm₂ => ?_
    refine .bind (.oblivious (Q := fun _ => True) (.attach _ _ _ _) fun _ _ => trivial)
      fun _ m₃ hg₃ _ => ?_
    exact .bind .declare fun _ m₄ hg₄ _ => .pure ((hm₂.trans hg₃).trans hg₄)

end FindsAt

/-- The interpreter at any depth, by induction on it. -/
theorem findsAt (n : Nat) : FindsAt n := by
  induction n with
  | zero =>
    exact ⟨fun _ _ => .exhausted, fun _ _ => .exhausted, fun _ _ => .exhausted,
      fun _ _ => .exhausted, fun _ _ => .exhausted, fun _ _ => .exhausted, fun _ _ => .exhausted,
      fun _ _ => .exhausted, fun _ _ _ => .exhausted, fun _ _ _ _ => .exhausted⟩
  | succ n ih =>
    exact ⟨ih.eval_succ, ih.evalAll_succ, ih.invoke_succ, ih.bindParams_succ, ih.run_succ,
      ih.runAll_succ, ih.test_succ, ih.assign_succ, ih.whileLoop_succ, ih.forLoop_succ⟩

/-- An accepted program calls only functions that are defined. -/
theorem runProgram_finds {ss : List Stmt} (hss : Check.statements ss c = (.ok (), c'))
    (hm : m.Has c.names) : Finds m (Exec.runProgram n ss) fun _ => True := by
  induction ss generalizing c m with
  | nil => exact .pure trivial
  | cons s rest ih =>
    obtain ⟨c₁, hs, hrest⟩ := Check.statements_cons hss
    exact .bind ((findsAt n).run hs hm) fun _ m₁ _ hm₁ => ih hrest hm₁

/-- A unit starts with the table at the fork, and with a statement that was accepted there. -/
theorem forksKeep_functionProtocol : Task.ForksKeep functionProtocol := by
  rintro _ ⟨budget, machine, units⟩ ⟨hclosed, c, hc, hunits⟩ s hs i
  obtain ⟨c₁, hs⟩ := hunits s hs
  have hrun : Finds (machine.child i) (Exec.runUnit budget s) fun _ => True :=
    .bind ((findsAt budget).run hs hc) fun _ _ _ _ => .pure trivial
  refine Process.Keeps.weaken (hrun hclosed) ?_
  rintro _ ⟨r, m'⟩ - ⟨hclosed', -, -, herr⟩
  exact ⟨hclosed', herr⟩

/-- **No run of an accepted program comes to an undefined function**, under any schedule, at any depth
of calls and in any world. -/
theorem Program.functions_defined {p : Program} (hcheck : p.check = .ok ()) {budget clock : Nat}
    {w w' : World} {t : Task}
    (hrun : Task.Reaches (.start clock (Exec.runProgram budget p.statements) .initial) w t w') :
    ∀ e f, t.Fails e → e.cause ≠ .undefinedFunction f := by
  obtain ⟨c', hstatements⟩ : ∃ c', Check.statements p.statements .initial = (.ok (), c') :=
    ⟨_, Prod.ext hcheck rfl⟩
  have hkeeps : (Task.start clock (Exec.runProgram budget p.statements) .initial).Keeps
      functionProtocol () := by
    have hinitial : Machine.initial.Has Context.initial.names := fun _ hg => nomatch hg
    refine Process.Keeps.weaken
      (runProgram_finds hstatements hinitial fun _ _ hf => nomatch hf) ?_
    rintro _ ⟨r, m'⟩ - ⟨hclosed, -, -, herr⟩
    exact ⟨hclosed, herr⟩
  obtain ⟨_, -, hkeeps', -⟩ := hkeeps.run forksKeep_functionProtocol trivial hrun
  exact fun e f he => hkeeps'.result he e rfl f

/-- Two blocks with a function of one name. The first one calls itself, and the second one fails in a
unit of its own. -/
def twinBlocks : Program where
  statements := [
    .block ⟨1, [
      .function ⟨2, "f", [⟨2, "again", .named "bool", some (.truth 2 true)⟩], .named "string", ⟨2, [
        .branch 3 (.ident 3 "again") ⟨3, [.return 3 (.call 3 "f" [.truth 3 false])]⟩ none,
        .return 4 (.text 4 "")]⟩⟩,
      .expr 5 (.call 5 "f" [])]⟩,
    .block ⟨6, [
      .function ⟨7, "f", [], .named "number", ⟨7, [
        .return 8 (.call 8 "to_number" [.text 8 "?"])]⟩⟩,
      .par ⟨9, [.expr 10 (.call 10 "f" [])]⟩]⟩]

/-- The program is accepted, and its run fails, but not for want of a function. -/
theorem functions_defined_twinBlocks :
    twinBlocks.check = .ok () ∧
      ∃ t w e, Task.Reaches (.start 0 (Exec.runProgram 20 twinBlocks.statements) .initial) .deserted
        t w ∧ t.Fails e ∧ ∀ f, e.cause ≠ .undefinedFunction f := by
  have hcheck : twinBlocks.check = .ok () := by decide +kernel
  have hfails : Process.failsFor (fun _ => true)
      (Exec.runProgram 20 twinBlocks.statements .initial) := by decide +kernel
  obtain ⟨t, w, e, hrun, he, -⟩ := Process.exists_fails hfails
  exact ⟨hcheck, t, w, e, hrun, he, fun f => Program.functions_defined hcheck hrun e f he⟩

end ParLang
