import ParLang.Proofs.Resolution.Follows
import ParLang.Proofs.Soundness.Exact
import ParLang.Proofs.Soundness.Interpreter

/-!
# Executions that are typed by their labels

A traced run knows for each binding the declaration that made it, and a watched one goes on with a name
only if that is the declaration the checker found. So a value has the type that the checker gives to
its name as soon as it has the type of its label, and this is all that `Secures` keeps (`Trace.Types`):
which scopes are open where, and what a name stands for, is for the run to compare.

Operations on values neither see labels nor change them. What is known of them on machines without
variables and functions (`Sound`) is known of them here.
-/

namespace ParLang

variable {α β : Type} {H H' : HeapTyping} {tr : Trace} {m : Machine} {S : Static}

/-- Every binding has a value of the type that its declaration gives to it. -/
def Trace.Types (H : HeapTyping) (tr : Trace) (m : Machine) : Prop :=
  Scopes.Beside (fun v (d : Declaration) => v.HasType H d.type) m.scopes.toList tr.labels.toList

/-- Labels have the types of their bindings when more arrays are typed. -/
theorem Trace.Types.mono (h : tr.Types H m) (hH : H ≤ H') : tr.Types H' m :=
  Scopes.Beside.imp h fun _ _ hv => hv.mono hH

/-- Units that start where the labels type the machine, and whose traced runs are plainly their runs. -/
def Fork.Labelled (H : HeapTyping) (f : Fork) : Prop :=
  ∃ (tr : Trace) (S : Static) (q : Site), tr.Types H f.machine ∧ S.Exact ∧
    (∀ s ∈ f.units, s.Exact S.inUnit) ∧
    ∀ i s, f.units[i]? = some s → ∀ j,
      Traced.plain (do let _ ← (Traced.interpreter .names).run f.budget ⟨S.inUnit, i :: q⟩ s) tr
        (f.machine.child j) = Exec.runUnit f.budget s (f.machine.child j)

/-- Units are labelled when more arrays are typed. -/
theorem Fork.Labelled.mono {f : Fork} (hH : H ≤ H') (h : f.Labelled H) : f.Labelled H' := by
  obtain ⟨tr, S, q, ht, hunits⟩ := h
  exact ⟨tr, S, q, ht.mono hH, hunits⟩

/-- No declaration and no function. -/
def Globals.none : Globals :=
  ⟨[], [], fun h => (nomatch h), fun h => (nomatch h)⟩

/-- The protocol with nothing asked of machines, and other forks. -/
def Protocol.withForks {κ γ : Type} [Preorder κ] (P : Protocol κ γ) (fork : κ → Fork → Prop)
    (hmono : ∀ {k k' f}, k ≤ k' → fork k f → fork k' f) : Protocol κ γ where
  machine _ _ := True
  request := P.request
  reply := P.reply
  fork := fork
  result := P.result
  world := P.world
  machine_mono _ h := h
  request_mono := P.request_mono
  fork_mono := hmono
  fork_machine _ := trivial
  answer := P.answer
  outside := P.outside
  around := P.around
  panic _ := P.panic _

/-- Units share the heap under a typing of it, and each types its variables by their labels. -/
def labelProtocol : Protocol HeapTyping StaticType :=
  (heapProtocol .none).withForks Fork.Labelled Fork.Labelled.mono

/-! ## Operations on values -/

/-- A machine without variables is typed by no declaration. -/
theorem Machine.typed_bare (m : Machine) : m.bare.Typed .none H :=
  ⟨Scopes.each_empty_cons.mpr fun _ hs => (nomatch hs), fun _ _ h => nomatch h⟩

/-- What a process promises on bare machines it promises on the others, too. -/
theorem Process.Keeps.of_bares {G : Globals} {scopes : Scopes Value} {functions : NameMap Function}
    {p p' : Process (Except RuntimeError α × Machine)} {post : HeapTyping → _ → Prop}
    (hbares : Process.Bares scopes functions p p') (h : p'.Keeps (heapProtocol G) post H) :
    p.Keeps labelProtocol (fun H' r => r.2.scopes = scopes ∧ post H' (r.1, r.2.bare)) H := by
  induction hbares generalizing H with
  | done hs _ _ => exact ⟨hs, h⟩
  | perform _ _ _ _ ih =>
    obtain ⟨-, t, hreq, hrest⟩ := h
    exact ⟨trivial, t, hreq, fun H' r hH hr => ih r (hrest H' r hH hr)⟩
  | exhausted => trivial

/-! ## The judgement -/

/-- What holds behind an execution; `Q` says more about a result. -/
def Ends (Q : HeapTyping → α → Prop) (H : HeapTyping) :
    Except RuntimeError (α × Trace) × Machine → Prop
  | (.ok (a, tr), m) => tr.Types H m ∧ Q H a
  | (.error e, _) => e.cause.Unchecked

/-- If the labels type the machine, the traced execution keeps to the protocol and ends as in `Q`. -/
def Secures (H : HeapTyping) (tr : Trace) (m : Machine) (x : Traced α) (Q : HeapTyping → α → Prop) :
    Prop :=
  tr.Types H m → (x tr m).Keeps labelProtocol (Ends Q) H

namespace Secures

variable {Q Q' : HeapTyping → α → Prop} {R : HeapTyping → β → Prop} {x : Traced α}

/-- Less may be said of what is given. -/
theorem weaken (h : Secures H tr m x Q) (hQ : ∀ H' a, H ≤ H' → Q H' a → Q' H' a) :
    Secures H tr m x Q' := by
  intro ht
  refine Process.Keeps.weaken (h ht) ?_
  rintro H' ⟨e | ⟨a, tr'⟩, m'⟩ hH hend
  · exact hend
  · exact ⟨hend.1, hQ H' a hH hend.2⟩

/-- A value is given at once. -/
theorem pure {a : α} (h : Q H a) : Secures H tr m (Pure.pure a) Q :=
  fun ht => ⟨ht, h⟩

/-- A run out of depth gives nothing. -/
theorem exhausted : Secures H tr m (Traced.lift Exec.exhausted : Traced α) Q :=
  fun _ => trivial

/-- A failure that the checker does not exclude may be thrown. -/
theorem error {e : RuntimeError} (h : e.cause.Unchecked) :
    Secures H tr m (throw e : Traced α) Q :=
  fun _ => h

/-- A sequence. The typing of the heap has only grown when the second part starts. -/
theorem bind {f : α → Traced β} (hx : Secures H tr m x Q)
    (hf : ∀ H' a tr' m', H ≤ H' → Q H' a → Secures H' tr' m' (f a) R) :
    Secures H tr m (x >>= f) R := by
  intro ht
  rw [Traced.bind_apply, Process.keeps_bind]
  refine Process.Keeps.weaken (hx ht) ?_
  rintro H₁ ⟨e | ⟨a, tr₁⟩, m₁⟩ hH hend
  · exact hend
  · exact hf H₁ a tr₁ m₁ hH hend.2 hend.1

/-- An operation on values does what it does on a bare machine. -/
theorem lift {y : Exec α} (hy : y.Oblivious) (hs : Sound .none H m.bare y fun H' a _ => Q H' a) :
    Secures H tr m (Traced.lift y) Q := by
  intro ht
  rw [Traced.lift_apply, Process.keeps_bind]
  refine Process.Keeps.weaken (Process.Keeps.of_bares (hy m) (hs m.typed_bare)) ?_
  rintro H' ⟨e | a, m'⟩ hH ⟨hscopes, hleaves⟩
  · exact hleaves.failure e rfl
  · refine ⟨?_, hleaves.result a rfl⟩
    rw [Trace.Types, hscopes]
    exact ht.mono hH

/-- An operation on values of which only the failures matter. -/
theorem lift_any {y : Exec α} {P : HeapTyping → α → Machine → Prop} (hy : y.Oblivious)
    (hs : Sound .none H m.bare y P) : Secures H tr m (Traced.lift y) fun _ _ => True :=
  lift hy (hs.weaken fun _ _ _ _ _ _ => trivial)

/-- A unit that is traced keeps to the protocol to its end. -/
theorem plain {x : Traced Unit} {Q : HeapTyping → Unit → Prop} (h : Secures H tr m x Q)
    (ht : tr.Types H m) : (Traced.plain x tr m).Keeps labelProtocol (Task.EndsAs labelProtocol) H := by
  rw [Traced.plain_apply, Process.keeps_bind]
  refine Process.Keeps.weaken (h ht) ?_
  rintro H' ⟨e | ⟨_, tr'⟩, m'⟩ - hend
  · exact ⟨trivial, hend⟩
  · exact ⟨trivial, trivial⟩

/-- A pause shows no value. -/
theorem pause (here : Checkpoint) :
    Secures H tr m (Traced.lift (Exec.pause here)) fun _ _ => True :=
  fun ht => ⟨trivial, .void, trivial, fun _ _ hH _ => ⟨ht.mono hH, trivial⟩⟩

/-- A value of the type of its label may be declared. -/
theorem declare {y : String} {v : Value} {d : Declaration} (hv : v.HasType H d.type) :
    Secures H tr m (Traced.declare y v d) fun _ _ => True :=
  fun ht => ⟨Scopes.Beside.declare ht hv, trivial⟩

/-- A definition binds no value. -/
theorem define {f : FunctionDef Stmt} {q : Site} :
    Secures H tr m (Traced.define S f q) fun _ _ => True :=
  fun ht => ⟨ht, trivial⟩

/-- The bindings of a block are typed and go with it. -/
theorem inScope (h : ∀ tr' m', Secures H tr' m' x Q) : Secures H tr m (Traced.inScope x) Q := by
  intro ht
  rw [Traced.inScope, Process.keeps_bind]
  refine Process.Keeps.weaken (h _ _ (Scopes.Beside.push ht)) ?_
  rintro H' ⟨e | ⟨a, tr'⟩, m'⟩ - hend
  · exact hend
  · exact ⟨Scopes.Beside.pop hend.1, hend.2⟩

/-- The scopes that a call hides come back with values of the same types. -/
theorem inCall {depth : Nat} (h : ∀ tr' m', Secures H tr' m' x Q) :
    Secures H tr m (Traced.inCall depth x) Q := by
  intro ht
  rw [Traced.inCall, Process.keeps_bind]
  refine Process.Keeps.weaken (h _ _ (Scopes.Beside.enter ht depth)) ?_
  rintro H' ⟨e | ⟨a, tr'⟩, m'⟩ hH hend
  · exact hend
  · exact ⟨Scopes.Beside.leave (ht.mono hH) hend.1 depth, hend.2⟩

/-! ### Names -/

/-- Where a run goes on with a name, its label has the type that the checker sees. -/
theorem atDeclared {y : String} {t : StaticType} {z : Exec α} (hS : S.Lexical)
    (hy : S.context.names.scopes.find? y = some t)
    (hz : ∀ d, tr.labels.find? y = some d → d.type = t → Secures H tr m (Traced.lift z) Q) :
    Secures H tr m (Traced.atDeclared .names S y z) Q := by
  intro ht
  obtain ⟨hnone, -⟩ | ⟨t', declared, ht', hdeclared, rfl⟩ := Scopes.eq_of_rel (hS.labels.find? y)
  · rw [hnone] at hy
    cases hy
  obtain rfl := Option.some.inj (ht'.symm.trans hy)
  simp only [Traced.atDeclared, Static.resolve?, hS.labels.label?_eq, hdeclared,
    Scopes.Beside.label?_eq ht]
  cases hmade : tr.labels.find? y with
  | none => trivial
  | some made =>
    dsimp only
    split
    -- The run has compared the two declarations, so from here on they are one.
    · next haccepts =>
      obtain rfl : declared = made := by simpa [Watch.accepts] using haccepts
      exact hz declared hmade rfl ht
    · trivial

/-- A variable that is labelled has the type of its label. -/
theorem variableValue {y : String} {d : Declaration} {line : Nat} (hd : tr.labels.find? y = some d) :
    Secures H tr m (Traced.lift (Exec.variableValue line y)) fun H' v => v.HasType H' d.type := by
  intro ht
  obtain ⟨-, hnone⟩ | ⟨v, d', hv, hd', hvd⟩ := Scopes.eq_of_rel (Scopes.Beside.find? ht y)
  · rw [hnone] at hd
    cases hd
  obtain rfl := Option.some.inj (hd'.symm.trans hd)
  rw [Traced.lift_apply, Exec.variableValue_apply hv]
  exact ⟨ht, hvd⟩

/-- A value of this type may be assigned to it. -/
theorem assignVariable {y : String} {v : Value} {d : Declaration} {line : Nat}
    (hd : tr.labels.find? y = some d) (hv : v.HasType H d.type) :
    Secures H tr m (Traced.lift (Exec.assignVariable line y v)) fun _ _ => True := by
  intro ht
  have hbound : (m.scopes.find? y).isSome := by
    rw [Scopes.Beside.isSome_eq ht, hd]
    rfl
  obtain ⟨scopes, hscopes⟩ := Option.isSome_iff_exists.mp
    (Scopes.assign?_isSome_iff (a := v).mpr hbound)
  rw [Traced.lift_apply, Exec.assignVariable_apply hscopes]
  exact ⟨Scopes.Beside.assign? ht hscopes hd hv, trivial⟩

/-- What follows on a call is of the function that the checker sees. -/
theorem calleeAt_bind {callee : String} {cl : Closure} {f : Closure → Traced α}
    (hcl : S.functions.find? callee = some cl) (h : Secures H tr m (f cl) Q) :
    Secures H tr m (Traced.calleeAt S callee >>= f) Q := by
  intro ht
  rw [Traced.bind_apply]
  simp only [Traced.calleeAt, hcl]
  cases tr.closures.find? callee with
  | none => trivial
  | some found =>
    dsimp only
    split
    · exact h ht
    · trivial

/-! ### Units -/

/-- Units that do not give up keep to the protocol, so their block fails only as one of them does. -/
theorem fork_join {budget : Nat} {units : List Stmt} {ok : Trace → Machine → Prop}
    (hfork : tr.Types H m → ok tr m → Fork.Labelled H ⟨budget, m, units⟩) :
    Secures H tr m (Traced.forkIf budget units ok >>= fun results => Traced.lift (Exec.join results))
      fun _ flow => flow = .normal := by
  have hfork : Secures H tr m (Traced.forkIf budget units ok)
      fun _ rs => ∀ r ∈ rs, labelProtocol.result r := by
    intro ht
    rw [Traced.forkIf]
    split
    · next hok => exact ⟨hfork ht hok, fun H' rs hH hrs => ⟨ht.mono hH, hrs⟩⟩
    · trivial
  refine .bind hfork fun H₁ rs tr₁ m₁ _ hrs => ?_
  obtain hjoin | ⟨e, he, hjoin⟩ := Exec.join_cases rs
  · exact hjoin ▸ .pure rfl
  · exact hjoin ▸ .error (hrs _ he)

end Secures

end ParLang
