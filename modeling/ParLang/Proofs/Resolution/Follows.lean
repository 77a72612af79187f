import ParLang.Proofs.Resolution.Invariant

/-!
# A traced run beside the run

`Follows` relates the process of a traced execution to that of the execution itself: the two ask for
the same, in the same order and with the same machines, and where one ends so does the other. Then the
traced one is plainly the other (`Follows.plain_eq`). It also keeps an eye on the execution: a call is
made only of a function whose scopes are all there, units are started only where they stand, and no
failure is that of a name without a meaning, but for one that a unit has ended with.

`Mirrors` is `Follows` from a trace that fits the machine to one that does, with the functions kept
under some names and a condition on the trace behind. It has a rule for each step of the interpreter.
-/

namespace ParLang

variable {α β : Type}

/-! ## Processes -/

/-- A call is of a function whose scopes are all there. -/
def Effect.Permitted (e : Effect) (m : Machine) : Prop :=
  ∀ line f, e = .pause (.call line f) → 0 < f.depth ∧ f.depth ≤ m.scopes.depth

/-- What is not a call is permitted on every machine. -/
theorem Effect.permitted_of_not_call {e : Effect} (h : e.isCall = false) (m : Machine) :
    e.Permitted m := by
  rintro line f rfl
  cases h

/-- The traced process does what the other one does, and ends with values, traces and machines as
in `Q`. Of the failures of names without a meaning it may have those in `E`. -/
inductive Follows (K : Survey) (Q : α → Trace → Machine → Prop) :
    (E : RuntimeError → Prop) → Process (Except RuntimeError (α × Trace) × Machine) →
      Process (Except RuntimeError α × Machine) → Prop where
  | ok {E a tr m} (h : Q a tr m) : Follows K Q E (.done (.ok (a, tr), m)) (.done (.ok a, m))
  | error {E e m} (he : e.cause.unresolved → E e) :
      Follows K Q E (.done (.error e, m)) (.done (.error e, m))
  | perform {E m e k k'} (he : e.Permitted m) (h : ∀ r, Follows K Q E (k r) (k' r)) :
      Follows K Q E (.perform m e k) (.perform m e k')
  /-- What a unit ends with the units around it may end with, too. -/
  | fork {E f k k'} (hf : f.Watched K)
      (h : ∀ rs, Follows K Q (fun e => E e ∨ .error e ∈ rs) (k rs) (k' rs)) :
      Follows K Q E (.fork f k) (.fork f k')
  | exhausted {E} : Follows K Q E .exhausted .exhausted

namespace Traced

/-- A traced sequence hands the trace on, and stops at a failure. -/
theorem bind_apply (x : Traced α) (f : α → Traced β) (tr : Trace) (m : Machine) :
    (x >>= f) tr m = (x tr m).bind fun
      | (.ok (a, tr'), m') => f a tr' m'
      | (.error e, m') => .done (.error e, m') := by
  refine (Exec.bind_apply (x tr) (fun r => f r.1 r.2) m).trans ?_
  exact Process.bind_congr (fun _ _ => rfl) fun _ _ => rfl

/-- What keeps no trace leaves the trace as it is. -/
theorem lift_apply (y : Exec α) (tr : Trace) (m : Machine) :
    lift y tr m = (y m).bind fun
      | (.ok a, m') => .done (.ok (a, tr), m')
      | (.error e, m') => .done (.error e, m') :=
  Exec.bind_apply y (fun a => pure (a, tr)) m

/-- The trace is forgotten at the end. -/
theorem plain_apply (x : Traced α) (tr : Trace) (m : Machine) :
    plain x tr m = (x tr m).bind fun
      | (.ok (a, _), m') => .done (.ok a, m')
      | (.error e, m') => .done (.error e, m') := by
  refine (Exec.bind_apply (x tr) (fun r => pure r.1) m).trans ?_
  exact Process.bind_congr (fun _ _ => rfl) fun _ _ => rfl

end Traced

/-- A variable that is bound has a value. -/
theorem Exec.variableValue_apply {line : Nat} {x : String} {v : Value} {m : Machine}
    (h : m.scopes.find? x = some v) : Exec.variableValue line x m = .done (.ok v, m) := by
  simp only [Exec.variableValue, Exec.machine, Exec.bind_apply, Process.bind, h]
  rfl

/-- A function that is defined is called. -/
theorem Exec.functionNamed_apply {line : Nat} {name : String} {f : Function} {m : Machine}
    (h : m.functions.find? name = some f) : Exec.functionNamed line name m = .done (.ok f, m) := by
  simp only [Exec.functionNamed, Exec.machine, Exec.bind_apply, Process.bind, h]
  rfl

/-- A variable that is bound can be bound anew. -/
theorem Exec.assignVariable_apply {line : Nat} {x : String} {v : Value} {m : Machine}
    {scopes : Scopes Value} (h : m.scopes.assign? x v = some scopes) :
    Exec.assignVariable line x v m = .done (.ok (), { m with scopes := scopes }) := by
  simp only [Exec.assignVariable, Exec.machine, Exec.bind_apply, Process.bind, h]
  rfl

namespace Follows

variable {K : Survey} {Q R : α → Trace → Machine → Prop} {E E' : RuntimeError → Prop}
  {p : Process (Except RuntimeError (α × Trace) × Machine)}
  {p' : Process (Except RuntimeError α × Machine)}

/-- Less may be said of the ends. -/
theorem imp (h : Follows K Q E p p') (hQ : ∀ a tr m, Q a tr m → R a tr m) (hE : ∀ e, E e → E' e) :
    Follows K R E' p p' := by
  induction h generalizing E' with
  | ok h => exact .ok (hQ _ _ _ h)
  | error he => exact .error fun h => hE _ (he h)
  | perform he _ ih => exact .perform he fun r => ih r hE
  | fork hf _ ih => exact .fork hf fun rs => ih rs fun e => Or.imp_left (hE e)
  | exhausted => exact .exhausted

/-- Processes that follow one another may go on alike from each end. -/
theorem bind {R : β → Trace → Machine → Prop}
    {f : Except RuntimeError (α × Trace) × Machine →
      Process (Except RuntimeError (β × Trace) × Machine)}
    {g : Except RuntimeError α × Machine → Process (Except RuntimeError β × Machine)}
    (h : Follows K Q E p p')
    (hok : ∀ a tr m, Q a tr m → Follows K R E (f (.ok (a, tr), m)) (g (.ok a, m)))
    (herror : ∀ {E} e m, (e.cause.unresolved → E e) →
      Follows K R E (f (.error e, m)) (g (.error e, m))) :
    Follows K R E (p.bind f) (p'.bind g) := by
  induction h with
  | ok hQ => exact hok _ _ _ hQ
  | error he => exact herror _ _ he
  | perform he _ ih => exact .perform he fun r => ih r hok
  | fork hf _ ih =>
    exact .fork hf fun rs => ih rs fun a tr m h => (hok a tr m h).imp (fun _ _ _ => id) fun _ => .inl
  | exhausted => exact .exhausted

/-- An operation on values is followed where its trace and machine are. -/
theorem lift {y : Exec α} {tr : Trace} {m : Machine} (hy : y.Oblivious)
    (hQ : ∀ a m', m'.scopes = m.scopes → m'.functions = m.functions → Q a tr m') :
    Follows K Q E (Traced.lift y tr m) (y m) := by
  rw [Traced.lift_apply]
  have h := hy m
  generalize y m = p, y m.bare = p' at h
  induction h with
  | @done r m' hs hf he =>
    cases r with
    | ok a => exact .ok (hQ a m' hs hf)
    | error e => exact .error fun h => by rw [he e rfl] at h; cases h
  | perform _ _ he _ ih => exact .perform (Effect.permitted_of_not_call he _) ih
  | exhausted => exact .exhausted

/-- **A traced execution that follows is plainly the execution it follows.** -/
theorem plain_eq {x : Traced α} {y : Exec α} {tr : Trace} {m : Machine}
    (h : Follows K Q E (x tr m) (y m)) : Traced.plain x tr m = y m := by
  rw [Traced.plain_apply]
  generalize x tr m = p, y m = p' at h
  induction h with
  | ok _ => rfl
  | error _ => rfl
  | perform _ _ ih => simp only [Process.bind, ih]
  | fork _ _ ih => simp only [Process.bind, ih]
  | exhausted => rfl

end Follows

/-! ## Executions side by side -/

/-- From where the trace fits the machine, the traced execution follows the other one, keeps the
functions of the trace under the names `kept`, and ends with a trace that fits and is as in `Q`. -/
def Mirrors (K : Survey) (kept : String → Prop) (tr : Trace) (m : Machine) (x : Traced α)
    (y : Exec α) (Q : Trace → Prop) : Prop :=
  Tracks K tr m →
    Follows K (fun _ tr' m' => Tracks K tr' m' ∧ Trace.Keeps kept tr tr' ∧ Q tr') (fun _ => False)
      (x tr m) (y m)

namespace Mirrors

variable {K : Survey} {kept kept' : String → Prop} {tr : Trace} {m : Machine} {Q R : Trace → Prop}
  {S : Static} {labels : Scopes Declaration}

/-- Less may be said of the trace, and fewer functions kept. -/
theorem weaken {x : Traced α} {y : Exec α} (h : Mirrors K kept tr m x y Q)
    (hkept : ∀ g, kept' g → kept g) (hQ : ∀ tr', Q tr' → R tr') : Mirrors K kept' tr m x y R := by
  intro ht
  refine (h ht).imp (fun _ tr' m' hend => ⟨hend.1, ?_, hQ _ hend.2.2⟩) fun _ => id
  exact fun g cl hg => hend.2.1 g cl (hkept g hg)

/-- A sequence follows part by part. -/
theorem bind {x : Traced α} {y : Exec α} {f : α → Traced β} {g : α → Exec β}
    (hx : Mirrors K kept tr m x y Q)
    (hf : ∀ a tr' m', Q tr' → Mirrors K kept tr' m' (f a) (g a) R) :
    Mirrors K kept tr m (x >>= f) (y >>= g) R := by
  intro ht
  rw [Traced.bind_apply, Exec.bind_apply]
  refine (hx ht).bind (fun a tr' m' h => ?_) fun _ _ he => .error he
  obtain ⟨ht', hkeeps, hQ⟩ := h
  refine (hf a tr' m' hQ ht').imp (fun _ tr'' m'' hend => ⟨hend.1, ?_, hend.2.2⟩) fun _ => id
  exact fun g cl hg hcl => hend.2.1 g cl hg (hkeeps g cl hg hcl)

/-- What does nothing leaves the trace as it is. -/
theorem pure (a : α) (h : Q tr) : Mirrors K kept tr m (pure a) (pure a) Q :=
  fun ht => .ok ⟨ht, fun _ _ _ hcl => hcl, h⟩

/-- Both sides run out of depth together. -/
theorem exhausted : Mirrors K kept tr m (Traced.lift Exec.exhausted : Traced α) Exec.exhausted Q :=
  fun _ => .exhausted

/-- An operation on values changes no trace. -/
theorem lift {y : Exec α} (hy : y.Oblivious) (h : Q tr) : Mirrors K kept tr m (Traced.lift y) y Q :=
  fun ht => Follows.lift hy fun _ _ hs hf =>
    ⟨ht.withScopes (hs ▸ ht.labels) hf rfl, fun _ _ _ hcl => hcl, h⟩

/-- Both sides fail in the same way, and for no want of a name. -/
theorem mismatch {line : Nat} {what : Mismatch} :
    Mirrors K kept tr m (Traced.lift (Exec.mismatch line what) : Traced α)
      (Exec.mismatch line what) Q :=
  fun _ => .error fun h => nomatch h

/-- A pause in front of a call shows a function whose depth is there. -/
theorem pauseCall {line : Nat} {f : Function} (hpos : 0 < f.depth) (hd : f.depth ≤ tr.labels.depth)
    (h : Q tr) : Mirrors K kept tr m (Traced.lift (Exec.pause (.call line f)))
      (Exec.pause (.call line f)) Q := by
  intro ht
  refine .perform ?_ fun _ => .ok ⟨ht, fun _ _ _ hcl => hcl, h⟩
  rintro _ _ ⟨⟩
  exact ⟨hpos, ht.depth_eq ▸ hd⟩

/-- A declaration is labelled with where it stands. -/
theorem declare (x : String) (v : Value) (d : Declaration)
    (h : Q { tr with labels := tr.labels.declare x d }) :
    Mirrors K kept tr m (Traced.declare x v d) (Exec.declare x v) Q :=
  fun ht => .ok ⟨ht.withScopes (ht.labels.declare trivial) rfl rfl, fun _ _ _ hcl => hcl, h⟩

/-- A definition: no function that is kept has its name, unless it is the same. -/
theorem define {f : FunctionDef Stmt} {q : Site} {c' : Context}
    (haccepted : Check.statement (.function f) S.context = (.ok (), c'))
    (hplaced : K.Places S.inner ⟨f, q, S⟩) (hlexical : S.Lexical) (hat : tr.At S labels)
    (hdepth : labels.depth = S.depth) :
    Mirrors K S.keeps tr m (Traced.define S f q) (Exec.define f)
      (·.At (S.after q (.function f)) labels) := by
  intro ht
  have hfunction : (⟨f, m.scopes.depth⟩ : Function) = (Closure.mk f q S).function := by
    rw [ht.depth_eq, hat.labels, hdepth]
    rfl
  have hkeeps : Trace.Keeps S.keeps tr
      { tr with closures := tr.closures.insert f.name ⟨f, q, S⟩ } := by
    intro g cl hg hcl
    show (tr.closures.insert f.name ⟨f, q, S⟩).find? g = some cl
    rw [NameMap.find?_insert]
    split
    · next hname =>
      obtain ⟨hmem, hcl'⟩ := ht.known g cl hcl
      rcases hg with hinner | hvisible
      · rw [hplaced.2 hinner _ hplaced.1 cl hmem rfl (hcl'.trans hname.symm)]
      · -- The checker rejects the definition of a function that is visible.
        cases Check.accepts_of_statement haccepted with
        | function hs _ _ _ =>
          have hnone := hlexical.find?_eq_none (signature_fresh hs)
          rw [hname] at hnone
          rw [NameMap.contains, hnone] at hvisible
          cases hvisible
    · exact hcl
  have htracks := ht.define hplaced.1
  rw [← hfunction] at htracks
  refine .ok ⟨htracks, hkeeps, hat.labels, fun g cl hg => ?_⟩
  simp only [Static.after, NameMap.find?_insert] at hg ⊢
  split
  · next hname => rwa [if_pos hname] at hg
  · next hname =>
    rw [if_neg hname] at hg
    exact hat.functions g cl hg

/-! ### Scopes and calls -/

/-- What is declared in a block is forgotten behind it, on the machine and in the trace. -/
theorem inScope {x : Traced α} {y : Exec α} (hat : tr.At S labels)
    (h : ∀ tr' m', tr'.At S labels.push →
      Mirrors K S.keeps tr' m' x y (·.labels.outer = labels.push.outer)) :
    Mirrors K S.keeps tr m (Traced.inScope x) (Exec.inScope y) (·.At S labels) := by
  intro ht
  have hpush : Trace.At { tr with labels := tr.labels.push } S labels.push :=
    ⟨by rw [hat.labels], hat.functions⟩
  have hin := h _ { m with scopes := m.scopes.push } hpush (ht.withScopes ht.labels.push rfl rfl)
  refine hin.bind (fun a tr' m' hend => ?_) fun _ _ he => .error he
  obtain ⟨ht', hkeeps, houter⟩ := hend
  exact .ok ⟨ht'.withScopes ht'.labels.pop rfl rfl, hkeeps,
    hat.of_keeps (Scopes.pop_push houter) hkeeps⟩

/-- A call starts on the scopes that the function sees, on the machine and in the trace. -/
theorem inCall {x : Traced α} {y : Exec α} {depth : Nat} (hat : tr.At S labels) (hpos : 0 < depth)
    (hdepth : depth ≤ labels.depth)
    (h : ∀ tr' m', tr'.labels = (labels.enter depth).2 → tr'.closures = tr.closures →
      Mirrors K (fun _ => True) tr' m' x y (·.labels.outer = (labels.enter depth).2.outer)) :
    Mirrors K kept tr m (Traced.inCall depth x) (Exec.inCall depth y) (·.At S labels) := by
  intro ht
  have hlabels := hat.labels
  subst hlabels
  have hin := h { tr with labels := (tr.labels.enter depth).2 }
    { m with scopes := (m.scopes.enter depth).2 } rfl rfl
    (ht.withScopes (ht.labels.enter depth) rfl rfl)
  refine hin.bind (fun a tr' m' hend => ?_) fun _ _ he => .error he
  obtain ⟨ht', hkeeps, houter⟩ := hend
  have hkeeps : ∀ g cl, tr.closures.find? g = some cl → tr'.closures.find? g = some cl :=
    fun g cl hcl => hkeeps g cl trivial hcl
  exact .ok ⟨ht'.withScopes (ht.labels.leave ht'.labels depth) rfl rfl, fun g cl _ => hkeeps g cl,
    Scopes.leave_enter hpos hdepth houter, fun g cl hg => hkeeps g cl (hat.functions g cl hg)⟩

/-! ### Names -/

/-- A name is looked up where its label is one that the watch accepts. -/
theorem atDeclared {x : String} {y : Exec α} (hat : tr.At S labels) (hlexical : S.Lexical)
    (hsome : (S.context.names.scopes.find? x).isSome)
    (hagree : K.watch.Agrees (S.labels.find? x) (labels.find? x))
    (hy : (m.scopes.find? x).isSome → Mirrors K kept tr m (Traced.lift y) y Q) :
    Mirrors K kept tr m (Traced.atDeclared K.watch S x y) y Q := by
  intro ht
  rw [hlexical.labels.isSome_eq] at hsome
  obtain ⟨declared, hdeclared⟩ := Option.isSome_iff_exists.mp hsome
  rw [hdeclared, ← hat.labels] at hagree
  obtain ⟨made, hmade, haccepts⟩ := hagree.accepts
  have hbound : (m.scopes.find? x).isSome := by
    rw [ht.labels.isSome_eq, hmade]
    rfl
  rw [← hlexical.labels.label?_eq] at hdeclared
  rw [← ht.labels.label?_eq] at hmade
  simp only [Traced.atDeclared, Static.resolve?, hdeclared, hmade, haccepts, if_true]
  exact hy hbound ht

/-- A variable that is bound is looked up without a change. -/
theorem variableValue {line : Nat} {x : String} (hbound : (m.scopes.find? x).isSome) (h : Q tr) :
    Mirrors K kept tr m (Traced.lift (Exec.variableValue line x)) (Exec.variableValue line x) Q := by
  intro ht
  obtain ⟨v, hv⟩ := Option.isSome_iff_exists.mp hbound
  rw [Traced.lift_apply, Exec.variableValue_apply hv]
  exact .ok ⟨ht, fun _ _ _ hcl => hcl, h⟩

/-- One that is bound can be assigned without a change of labels. -/
theorem assignVariable {line : Nat} {x : String} {v : Value} (hbound : (m.scopes.find? x).isSome)
    (h : Q tr) : Mirrors K kept tr m (Traced.lift (Exec.assignVariable line x v))
      (Exec.assignVariable line x v) Q := by
  intro ht
  obtain ⟨scopes, hscopes⟩ := Option.isSome_iff_exists.mp
    (Scopes.assign?_isSome_iff (a := v).mpr hbound)
  rw [ht.labels.isSome_eq] at hbound
  obtain ⟨d, hd⟩ := Option.isSome_iff_exists.mp hbound
  rw [Traced.lift_apply, Exec.assignVariable_apply hscopes]
  exact .ok ⟨ht.withScopes (ht.labels.assign? hscopes hd trivial) rfl rfl, fun _ _ _ hcl => hcl, h⟩

/-- A function that the checker sees is the one that the machine has. -/
theorem calleeAt_bind {callee : String} {cl : Closure} {f : Closure → Traced α} {g : Function → Exec α}
    {line : Nat} (hat : tr.At S labels) (hcl : S.functions.find? callee = some cl)
    (h : Mirrors K kept tr m (f cl) (g cl.function) Q) :
    Mirrors K kept tr m (Traced.calleeAt S callee >>= f) (Exec.functionNamed line callee >>= g) Q := by
  intro ht
  have hfound := hat.functions callee cl hcl
  have hfunction := ht.functions callee
  rw [hfound] at hfunction
  rw [Traced.bind_apply, Exec.bind_apply, Exec.functionNamed_apply hfunction]
  simp only [Traced.calleeAt, hcl, hfound, if_true]
  exact h ht

/-! ### Units -/

/-- Units run beside each other where each of them is followed. -/
theorem fork_join {budget : Nat} {units : List Stmt} {ok : Trace → Machine → Prop}
    (hok : Tracks K tr m → ok tr m) (hwatched : Tracks K tr m → Fork.Watched K ⟨budget, m, units⟩)
    (h : Q tr) :
    Mirrors K kept tr m (Traced.forkIf budget units ok >>= fun results => Traced.lift (Exec.join results))
      (Exec.fork budget units >>= Exec.join) Q := by
  intro ht
  rw [Traced.bind_apply]
  simp only [Traced.forkIf, hok ht, if_true]
  refine .fork (hwatched ht) fun rs => ?_
  show Follows K _ _ (Traced.lift (Exec.join rs) tr { m with forks := m.forks + 1 })
    (Exec.join rs { m with forks := m.forks + 1 })
  obtain hjoin | ⟨e, he, hjoin⟩ := Exec.join_cases rs
  · rw [hjoin]
    exact .ok ⟨ht.withScopes ht.labels rfl rfl, fun _ _ _ hcl => hcl, h⟩
  · rw [hjoin]
    exact .error fun _ => .inr he

end Mirrors

end ParLang
