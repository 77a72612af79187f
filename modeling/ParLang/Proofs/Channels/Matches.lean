import ParLang.Proofs.Channels.Logged
import ParLang.Proofs.Execution.Built
import ParLang.Proofs.Execution.Discipline
import ParLang.Proofs.Resolution.Follows

/-!
# A logged run beside the traced run

The log of a unit fits its machine (`ChannelLog.Fits`) if it knows of each name the connection that the
table has, and if each variable that a `c_channel` has bound holds the name of the channel. The two are
kept together: a channel changes in the table only where it is logged, and no assignment is to a channel.

`Logged.Matches` says that from a log that fits a logged execution does what the traced one does, and
ends with a log that fits. It has a rule for each step of the interpreter.
-/

namespace ParLang

variable {α β : Type} {p : Program} {S : Static} {log : ChannelLog} {tr : Trace} {m : Machine}

/-! ## Operations that use no channels -/

/-- The variables and the channels are as they were. -/
structure Machine.Calm (m m' : Machine) : Prop where
  scopes : m'.scopes = m.scopes
  channels : m'.channels = m.channels

/-- Steps that keep scopes and channels compose. -/
instance : IsPreorder Machine Machine.Calm where
  refl _ := ⟨rfl, rfl⟩
  trans _ _ _ h h' := ⟨h'.scopes.trans h.scopes, h'.channels.trans h.channels⟩

/-- The channels are as they were. -/
def Machine.SameChannels (m m' : Machine) : Prop :=
  m'.channels = m.channels

/-- Steps that keep the channels compose. -/
instance : IsPreorder Machine Machine.SameChannels where
  refl _ := rfl
  trans _ _ _ h h' := h'.trans h

open Exec (Leads)

/-- A fault of the surroundings leaves every machine as it is. -/
theorem Exec.Leads.orFail {R : Machine → Machine → Prop} [IsPreorder Machine R] (line : Nat)
    (action : IoAction) (reply : Except IoFault α) : Leads R (orFail line action reply) := by
  cases reply with
  | ok a => exact .pure a
  | error fault => exact .fail _ _

/-- A line is exchanged with what is written down left as it is. -/
theorem Exec.leads_exchange {R : Machine → Machine → Prop} [IsPreorder Machine R] (line : Nat)
    (name : String) (connection : ConnectionId) (message : String) :
    Leads R (exchange line name connection message) :=
  .bind (.perform _) fun _ => .bind (.orFail _ _ _) fun _ => .bind (.perform _) fun _ =>
    .bind (.orFail _ _ _) fun _ => .bind (.perform _) fun _ => .bind (.orFail _ _ _) fun _ => .pure _

/-- A channel with this name is open: a line is sent through its connection. -/
theorem Exec.sendLine_of_open {line : Nat} {name message : String} {connection : ConnectionId}
    (h : m.channels.find? name = some connection) :
    sendLine line name message m = exchange line name connection message m := by
  simp only [sendLine, machine, bind_apply, Process.bind, h]

/-- No channel has this name: nothing is sent. -/
theorem Exec.sendLine_of_closed {line : Nat} {name message : String}
    (h : m.channels.find? name = none) :
    sendLine line name message m = .done (.error ⟨.undefinedChannel name, line⟩, m) := by
  simp only [sendLine, machine, bind_apply, Process.bind, h]
  rfl

/-- A channel with this name is open: it is forgotten, and its connection is shut down. -/
theorem Exec.closeChannel_of_open {name : String} {connection : ConnectionId}
    (h : m.channels.find? name = some connection) :
    closeChannel name m =
      .perform { m with channels := m.channels.erase name } (.shutdown connection) fun _ =>
        .done (.ok .void, { m with channels := m.channels.erase name }) := by
  simp only [closeChannel, machine, bind_apply, Process.bind, h]
  rfl

/-- No channel has this name: closing it does nothing. -/
theorem Exec.closeChannel_of_closed {name : String} (h : m.channels.find? name = none) :
    closeChannel name m = .done (.ok .void, m) := by
  simp only [closeChannel, machine, bind_apply, Process.bind, h]
  rfl

/-- Whether the table of channels stays as it is passes from the parts of an execution to the whole. -/
theorem Exec.Leads.composes_sameChannels : Composes False (Leads Machine.SameChannels) where
  pure := .pure
  bind := .bind
  fail := .fail
  exhausted := .exhausted
  machine := by
    intro m es r m' h
    obtain ⟨-, heq⟩ := Process.ends_done_iff.mp h
    obtain ⟨-, rfl⟩ := Prod.mk.inj heq
    exact rfl
  perform _ := .perform _
  update hf := .update hf
  inScope hx := by
    intro m es r m' h
    obtain ⟨m₁, hx', rfl⟩ := ends_inScope_iff.mp h
    have hsame := hx _ _ _ _ hx'
    exact hsame
  inCall _ hx := by
    intro m es r m' h
    obtain ⟨m₁, hx', rfl⟩ := ends_inCall_iff.mp h
    have hsame := hx _ _ _ _ hx'
    exact hsame
  fork _ _ := by
    intro m es r m' h
    cases h with
    | joined h =>
      obtain ⟨-, heq⟩ := Process.ends_done_iff.mp h
      obtain ⟨-, rfl⟩ := Prod.mk.inj heq
      exact rfl
  attach h := h.elim
  sendLine _ _ _ := by
    refine .machine_bind fun m => ?_
    cases m.channels.find? _ with
    | none => exact .fail _ _
    | some connection => exact leads_exchange _ _ _ _
  closeChannel h := h.elim

/-- What opens and closes no channel leaves the table of channels alone. -/
theorem Exec.Built.leads {x : Exec α} (h : x.Built False) : Leads Machine.SameChannels x :=
  Leads.composes_sameChannels.of_built h

/-- An operation on values that opens and closes no channel. -/
theorem Exec.Oblivious.calm {x : Exec α} (hx : x.Oblivious) (hb : x.Built False) :
    Leads Machine.Calm x :=
  fun m es r m' h => ⟨(Leads.of_oblivious hx m es r m' h).1, hb.leads m es r m' h⟩

/-! ## Processes -/

/-- The logged process does what the traced one does, and ends with logs, traces and machines as in
`Q`. -/
inductive Process.Matches (Q : α → ChannelLog → Trace → Machine → Prop) :
    Process (Except RuntimeError ((α × ChannelLog) × Trace) × Machine) →
      Process (Except RuntimeError (α × Trace) × Machine) → Prop where
  | ok {a log tr m} (h : Q a log tr m) :
      Matches Q (.done (.ok ((a, log), tr), m)) (.done (.ok (a, tr), m))
  | error {e m} : Matches Q (.done (.error e, m)) (.done (.error e, m))
  | perform {m e k k'} (h : ∀ r, Matches Q (k r) (k' r)) :
      Matches Q (.perform m e k) (.perform m e k')
  | fork {f k k'} (h : ∀ rs, Matches Q (k rs) (k' rs)) : Matches Q (.fork f k) (.fork f k')
  | exhausted : Matches Q .exhausted .exhausted

namespace Process.Matches

variable {Q R : α → ChannelLog → Trace → Machine → Prop}
  {pr : Process (Except RuntimeError ((α × ChannelLog) × Trace) × Machine)}
  {pr' : Process (Except RuntimeError (α × Trace) × Machine)}

/-- Processes that match may be followed by processes that match at every result they come to together. -/
theorem bind {R : β → ChannelLog → Trace → Machine → Prop}
    {f : Except RuntimeError ((α × ChannelLog) × Trace) × Machine →
      Process (Except RuntimeError ((β × ChannelLog) × Trace) × Machine)}
    {g : Except RuntimeError (α × Trace) × Machine →
      Process (Except RuntimeError (β × Trace) × Machine)}
    (h : pr.Matches Q pr')
    (hok : ∀ a log tr m, Q a log tr m → (f (.ok ((a, log), tr), m)).Matches R (g (.ok (a, tr), m)))
    (herror : ∀ e m, (f (.error e, m)).Matches R (g (.error e, m))) :
    (pr.bind f).Matches R (pr'.bind g) := by
  induction h with
  | ok h => exact hok _ _ _ _ h
  | error => exact herror _ _
  | perform _ ih => exact .perform ih
  | fork _ ih => exact .fork ih
  | exhausted => exact .exhausted

end Process.Matches

namespace Traced

/-- Reading the machine takes no step. -/
theorem machine_bind (f : Machine → Traced α) (tr : Trace) (m : Machine) :
    (lift Exec.machine >>= f) tr m = f m tr m := rfl

/-- It does not matter how three traced executions in sequence are grouped. -/
theorem bind_assoc {γ : Type} (x : Traced α) (f : α → Traced β) (g : β → Traced γ) :
    x >>= f >>= g = x >>= fun a => f a >>= g := by
  funext tr m
  rw [bind_apply, bind_apply, bind_apply, Process.bind_assoc]
  exact Process.bind_congr (fun r m' => (bind_apply (f r.1) g r.2 m').symm) fun _ _ => rfl

/-- A sequence without a trace is a sequence with one. -/
theorem lift_bind (x : Exec α) (f : α → Exec β) : lift (x >>= f) = lift x >>= fun a => lift (f a) := by
  funext tr m
  simp only [bind_apply, lift_apply, Exec.bind_apply, Process.bind_assoc]
  exact Process.bind_congr (fun _ _ => rfl) fun _ _ => rfl

end Traced

namespace Logged

/-- A logged sequence hands log and trace on, and stops at a failure. -/
theorem bind_apply (x : Logged α) (f : α → Logged β) (log : ChannelLog) (tr : Trace) (m : Machine) :
    (x >>= f) log tr m = (x log tr m).bind fun
      | (.ok ((a, log'), tr'), m') => f a log' tr' m'
      | (.error e, m') => .done (.error e, m') := by
  refine (Traced.bind_apply (x log) (fun r => f r.1 r.2) tr m).trans ?_
  exact Process.bind_congr (fun _ _ => rfl) fun _ _ => rfl

/-- It does not matter how three logged executions in sequence are grouped. -/
theorem bind_assoc {γ : Type} (x : Logged α) (f : α → Logged β) (g : β → Logged γ) :
    x >>= f >>= g = x >>= fun a => f a >>= g := by
  funext log tr m
  rw [bind_apply, bind_apply, bind_apply, Process.bind_assoc]
  exact Process.bind_congr (fun r m' => (bind_apply (f r.1.1) g r.1.2 r.2 m').symm) fun _ _ => rfl

/-- What keeps no log leaves the log as it is. -/
theorem lift_apply (x : Traced α) (log : ChannelLog) (tr : Trace) (m : Machine) :
    lift x log tr m = (x tr m).bind fun
      | (.ok (a, tr'), m') => .done (.ok ((a, log), tr'), m')
      | (.error e, m') => .done (.error e, m') :=
  Traced.bind_apply x (fun a => pure (a, log)) tr m

/-- The log is forgotten at the end. -/
theorem unlogged_apply (x : Logged α) (log : ChannelLog) (tr : Trace) (m : Machine) :
    unlogged x log tr m = (x log tr m).bind fun
      | (.ok ((a, _), tr'), m') => .done (.ok (a, tr'), m')
      | (.error e, m') => .done (.error e, m') := by
  refine (Traced.bind_apply (x log) (fun r => pure r.1) tr m).trans ?_
  exact Process.bind_congr (fun _ _ => rfl) fun _ _ => rfl

/-- **A logged execution that matches is the traced one**, but for its log. -/
theorem unlogged_eq {Q : α → ChannelLog → Trace → Machine → Prop} {x : Logged α} {y : Traced α}
    (h : (x log tr m).Matches Q (y tr m)) : unlogged x log tr m = y tr m := by
  rw [unlogged_apply]
  generalize x log tr m = pr, y tr m = pr' at h
  induction h with
  | ok => rfl
  | error => rfl
  | perform _ ih => simp only [Process.bind, ih]
  | fork _ ih => simp only [Process.bind, ih]
  | exhausted => rfl

/-- A logged execution and a traced one that match are one execution once log and trace are forgotten. This
is where all matching leads. -/
theorem plain_eq {Q : α → ChannelLog → Trace → Machine → Prop} {x : Logged α} {y : Traced α}
    (h : (x log tr m).Matches Q (y tr m)) : plain x log tr m = Traced.plain y tr m := by
  rw [plain, Traced.plain_apply, Traced.plain_apply, unlogged_eq h]

end Logged

/-! ## Logs that fit -/

namespace ChannelLog

/-- The value is the name of the channel, if the declaration opens one. -/
def Holds (p : Program) (v : Value) (d : Declaration) : Prop :=
  ∀ name, p.channelOf? d = some name → v = .text name

/-- The log fits the machine: it knows the channels that are open, and each variable that a `c_channel`
has bound holds the name of the channel. -/
structure Fits (p : Program) (log : ChannelLog) (tr : Trace) (m : Machine) : Prop where
  labels : Scopes.Beside (Holds p) m.scopes.toList tr.labels.toList
  channels : ∀ name, log.current? name = m.channels.find? name

namespace Fits

variable {m' : Machine} {tr' : Trace} {log' : ChannelLog}

/-- At the start nothing is logged and no channel is open. -/
theorem initial : Fits p [] .initial .initial :=
  ⟨Scopes.beside_new, fun _ => rfl⟩

/-- Scopes and labels may change together. -/
theorem withScopes (h : log.Fits p tr m)
    (hlabels : Scopes.Beside (Holds p) m'.scopes.toList tr'.labels.toList)
    (hchannels : m'.channels = m.channels) : log.Fits p tr' m' :=
  ⟨hlabels, hchannels ▸ h.channels⟩

/-- A step that keeps scopes and channels keeps the log true. -/
theorem calm (h : log.Fits p tr m) (hm : m.Calm m') : log.Fits p tr m' :=
  h.withScopes (hm.scopes ▸ h.labels) hm.channels

/-- A channel is opened under a name. -/
theorem opened (h : log.Fits p tr m) (name : String) (connection : ConnectionId) :
    Fits p (.opened name connection :: log) tr
      { m with channels := m.channels.insert name connection } := by
  refine ⟨h.labels, fun x => ?_⟩
  rw [current?, NameMap.find?_insert, h.channels]

/-- A name is closed. -/
theorem closed (h : log.Fits p tr m) (name : String) :
    Fits p (.closed name :: log) tr { m with channels := m.channels.erase name } := by
  refine ⟨h.labels, fun x => ?_⟩
  rw [current?, NameMap.find?_erase, h.channels]

end Fits

end ChannelLog

/-! ## Executions side by side -/

/-- From a log that fits, the logged execution does what the traced one does and ends with a log that
fits. -/
def Logged.Matches (p : Program) (x : Logged α) (y : Traced α) : Prop :=
  ∀ log tr m, ChannelLog.Fits p log tr m →
    (x log tr m).Matches (fun _ log' tr' m' => log'.Fits p tr' m') (y tr m)

namespace Logged.Matches

/-- Values match as they are. -/
theorem pure (a : α) : Matches p (Pure.pure a) (Pure.pure a) :=
  fun _ _ _ h => .ok h

/-- Both sides run out of depth together. -/
theorem exhausted : Matches p (Logged.op Exec.exhausted : Logged α) (Traced.lift Exec.exhausted) :=
  fun _ _ _ _ => .exhausted

/-- A sequence matches part by part. -/
theorem bind {x : Logged α} {y : Traced α} {f : α → Logged β} {g : α → Traced β}
    (hx : Matches p x y) (hf : ∀ a, Matches p (f a) (g a)) : Matches p (x >>= f) (y >>= g) := by
  intro log tr m h
  rw [Logged.bind_apply, Traced.bind_apply]
  exact (hx log tr m h).bind (fun a log' tr' m' h' => hf a log' tr' m' h') fun _ _ => .error

/-- What does nothing with channels, if it ends with a log that fits. -/
theorem lift {y : Traced α}
    (hy : ∀ log tr m, ChannelLog.Fits p log tr m → ∀ es a tr' m',
      (y tr m).Ends es (.ok (a, tr'), m') → log.Fits p tr' m') : Matches p (Logged.lift y) y := by
  intro log tr m h
  rw [Logged.lift_apply]
  have hends := hy log tr m h
  generalize y tr m = pr at hends ⊢
  induction pr with
  | done r =>
    obtain ⟨r, m'⟩ := r
    cases r with
    | ok r => exact .ok (hends [] _ _ _ .here)
    | error e => exact .error
  | perform m' e k ih => exact .perform fun r => ih r fun es a tr' m₁ h => hends _ a tr' m₁ (.answered h)
  | fork f k ih => exact .fork fun rs => ih rs fun es a tr' m₁ h => hends _ a tr' m₁ (.joined h)
  | exhausted => exact .exhausted

/-- An operation on values that opens and closes no channel. -/
theorem op {y : Exec α} (hy : Leads Machine.Calm y) : Matches p (Logged.op y) (Traced.lift y) := by
  refine lift fun log tr m h es a tr' m' hends => ?_
  rw [Traced.lift_apply] at hends
  obtain ⟨⟨r, m₁⟩, es₁, es₂, hy', hrest, -⟩ := Process.ends_bind_iff.mp hends
  have hcalm := hy m _ r m₁ hy'
  cases r with
  | ok b =>
    obtain ⟨-, heq⟩ := Process.ends_done_iff.mp hrest
    cases heq
    exact h.calm hcalm
  | error e =>
    obtain ⟨-, heq⟩ := Process.ends_done_iff.mp hrest
    cases heq

/-- Both sides fail in the same way. -/
theorem mismatch {line : Nat} {what : Mismatch} :
    Matches p (Logged.op (Exec.mismatch line what) : Logged α) (Traced.lift (Exec.mismatch line what)) :=
  op (.fail _ _)

/-- A declared name holds no channel, or the one that its declaration says. -/
theorem declare {x : String} {v : Value} {d : Declaration} (h : ChannelLog.Holds p v d) :
    Matches p (Logged.lift (Traced.declare x v d)) (Traced.declare x v d) :=
  fun _ _ _ hfits => .ok (hfits.withScopes (hfits.labels.declare h) rfl)

/-- A function is defined with its place on both sides. -/
theorem define (f : FunctionDef Stmt) (q : Site) :
    Matches p (Logged.lift (Traced.define S f q)) (Traced.define S f q) :=
  fun _ _ _ hfits => .ok (hfits.withScopes hfits.labels rfl)

/-! ### Scopes and calls -/

/-- Names of a block are forgotten behind it on both sides. -/
theorem inScope {x : Logged α} {y : Traced α} (h : Matches p x y) :
    Matches p (Logged.inScope x) (Traced.inScope y) := by
  intro log tr m hfits
  have hin := h log { tr with labels := tr.labels.push } { m with scopes := m.scopes.push }
    (hfits.withScopes hfits.labels.push rfl)
  refine hin.bind (fun a log' tr' m' h' => ?_) fun _ _ => .error
  exact .ok (h'.withScopes h'.labels.pop rfl)

/-- A call starts on the scopes that the function sees, with nothing forgotten of the log. -/
theorem inCall {x : Logged α} {y : Traced α} {depth : Nat} (h : Matches p x y) :
    Matches p (Logged.inCall depth x) (Traced.inCall depth y) := by
  intro log tr m hfits
  have hin := h log { tr with labels := (tr.labels.enter depth).2 }
    { m with scopes := (m.scopes.enter depth).2 } (hfits.withScopes (hfits.labels.enter depth) rfl)
  refine hin.bind (fun a log' tr' m' h' => ?_) fun _ _ => .error
  exact .ok (h'.withScopes (hfits.labels.leave h'.labels depth) rfl)

/-- What follows on a call is of a function that the checker sees. -/
theorem calleeAt_bind {callee : String} {f : Closure → Logged α} {g : Closure → Traced α}
    (h : ∀ cl, S.functions.find? callee = some cl → Matches p (f cl) (g cl)) :
    Matches p (Logged.lift (Traced.calleeAt S callee) >>= f) (Traced.calleeAt S callee >>= g) := by
  intro log tr m hfits
  rw [Logged.bind_apply, Traced.bind_apply, Logged.lift_apply]
  cases hseen : S.functions.find? callee with
  | none =>
    simp only [Traced.calleeAt, hseen]
    exact .exhausted
  | some seen =>
    cases hfound : tr.closures.find? callee with
    | none =>
      simp only [Traced.calleeAt, hseen, hfound]
      exact .exhausted
    | some found =>
      simp only [Traced.calleeAt, hseen, hfound]
      split
      · exact h seen hseen log tr m hfits
      · exact .exhausted

/-! ### Names -/

/-- A variable that the checker resolves to a channel holds its name. -/
theorem variable_cases (hfits : log.Fits p tr m) (S : Static) (line : Nat) (x : String) :
    Traced.atDeclared .names S x (Exec.variableValue line x) tr m = .exhausted ∨
      ∃ v, Traced.atDeclared .names S x (Exec.variableValue line x) tr m = .done (.ok (v, tr), m) ∧
        ∀ name, p.channelAt? S x = some name → v = .text name := by
  rw [Traced.atDeclared]
  split
  · next declared made hdeclared hmade =>
    split
    · next haccepts =>
      obtain rfl : declared = made := by simpa [Watch.accepts] using haccepts
      rw [hfits.labels.label?_eq] at hmade
      obtain ⟨-, hnone⟩ | ⟨v, d, hv, hd, hholds⟩ := Scopes.eq_of_rel (hfits.labels.find? x)
      · rw [hmade] at hnone
        cases hnone
      · obtain rfl := Option.some.inj (hmade.symm.trans hd)
        refine .inr ⟨v, ?_, fun name hname => hholds name ?_⟩
        · rw [Traced.lift_apply, Exec.variableValue_apply hv]
          rfl
        · rwa [Program.channelAt?, hdeclared] at hname
    · exact .inl rfl
  · exact .inl rfl

/-- A variable that is looked up gives the same value on both sides. -/
theorem «variable» (S : Static) (line : Nat) (x : String) :
    Matches p (Logged.lift (Traced.atDeclared .names S x (Exec.variableValue line x)))
      (Traced.atDeclared .names S x (Exec.variableValue line x)) := by
  intro log tr m hfits
  rw [Logged.lift_apply]
  obtain heq | ⟨v, heq, -⟩ := variable_cases hfits S line x
  · rw [heq]
    exact .exhausted
  · rw [heq]
    exact .ok hfits

/-- The name of a channel, looked up where no assignment can have changed it, gives the channel's own name.
-/
theorem channel_bind {f : Value → Logged α} {g : Value → Traced α} {line : Nat} {x name : String}
    (hname : p.channelAt? S x = some name) (hf : Matches p (f (.text name)) (g (.text name))) :
    Matches p (Logged.lift (Traced.atDeclared .names S x (Exec.variableValue line x)) >>= f)
      (Traced.atDeclared .names S x (Exec.variableValue line x) >>= g) := by
  intro log tr m hfits
  rw [Logged.bind_apply, Traced.bind_apply, Logged.lift_apply]
  obtain heq | ⟨v, heq, hv⟩ := variable_cases hfits S line x
  · rw [heq]
    exact .exhausted
  · rw [heq, hv name hname]
    exact hf log tr m hfits

/-- An assignment is to no channel. -/
theorem assignVariable {line : Nat} {x : String} (hspare : p.channelAt? S x = none) (v : Value) :
    Matches p (Logged.lift (Traced.atDeclared .names S x (Exec.assignVariable line x v)))
      (Traced.atDeclared .names S x (Exec.assignVariable line x v)) := by
  intro log tr m hfits
  rw [Logged.lift_apply, Traced.atDeclared]
  split
  · next declared made hdeclared hmade =>
    split
    · next haccepts =>
      obtain rfl : declared = made := by simpa [Watch.accepts] using haccepts
      rw [hfits.labels.label?_eq] at hmade
      have hholds : ChannelLog.Holds p v declared := by
        intro name hname
        rw [Program.channelAt?, hdeclared, Option.bind_some, hname] at hspare
        cases hspare
      have hbound : (m.scopes.find? x).isSome := by
        rw [hfits.labels.isSome_eq, hmade]
        rfl
      obtain ⟨scopes, hscopes⟩ := Option.isSome_iff_exists.mp
        (Scopes.assign?_isSome_iff (a := v).mpr hbound)
      rw [Traced.lift_apply, Exec.assignVariable_apply hscopes]
      exact .ok (hfits.withScopes (hfits.labels.assign? hscopes hmade hholds) rfl)
    · exact .exhausted
  · exact .exhausted

/-! ### Channels -/

/-- What follows goes by the log. -/
theorem get_bind {f : ChannelLog → Logged α} {y : Traced α}
    (h : ∀ log tr m, ChannelLog.Fits p log tr m →
      (f log log tr m).Matches (fun _ log' tr' m' => log'.Fits p tr' m') (y tr m)) :
    Matches p (get >>= f) y :=
  h

/-- A line goes through the connection of the channel that was opened last under this name, which is what
the log keeps. -/
theorem sendLine (line : Nat) (name message : String) :
    Matches p (Logged.sendLine line name message) (Traced.lift (Exec.sendLine line name message)) := by
  refine get_bind fun log tr m hfits => ?_
  rw [Traced.lift_apply, hfits.channels]
  cases hfind : m.channels.find? name with
  | none =>
    rw [Exec.sendLine_of_closed hfind]
    exact .error
  | some connection =>
    rw [Exec.sendLine_of_open hfind, ← Traced.lift_apply]
    exact op (Exec.leads_exchange _ _ _ _) log tr m hfits

/-- Closing a channel takes it out of the table and out of the log. -/
theorem closeChannel (name : String) :
    Matches p (Logged.closeChannel name) (Traced.lift (Exec.closeChannel name)) := by
  refine get_bind fun log tr m hfits => ?_
  rw [Traced.lift_apply, hfits.channels]
  cases hfind : m.channels.find? name with
  | none =>
    rw [Exec.closeChannel_of_closed hfind]
    exact .ok hfits
  | some connection =>
    rw [Exec.closeChannel_of_open hfind]
    exact .perform fun _ => .ok (hfits.closed name)

/-- The connection that is closed is the one that was logged last. -/
theorem attach (line : Nat) (name host : String) (port : Nat) :
    Matches p (Logged.attach line name host port) (Traced.lift (Exec.attach line name host port)) := by
  unfold Exec.attach
  simp only [Traced.lift_bind]
  refine .bind (.op (.perform _)) fun reply => .bind (.op (.orFail _ _ _)) fun connection => ?_
  refine get_bind fun log tr m hfits => ?_
  rw [hfits.channels, Traced.machine_bind]
  cases m.channels.find? name with
  | none => exact .ok (hfits.opened name connection)
  | some previous => exact .perform fun _ => .ok (hfits.opened name connection)

/-- A built-in function, if the value of a channel that the checker resolves is its name. -/
theorem callBuiltin {channel? : Option String} {callee : Builtin} {args : List Value} (depth line : Nat)
    (h : callee = .send → ∀ name, channel? = some name → ∃ rest, args = .text name :: rest) :
    Matches p (Logged.callBuiltin channel? depth callee args line)
      (Traced.lift (Exec.callBuiltin depth callee args line)) := by
  have hplain : (callee = .close → False) →
      Matches p (Logged.op (Exec.callBuiltin depth callee args line))
        (Traced.lift (Exec.callBuiltin depth callee args line)) := fun hclose =>
    op ((Exec.Oblivious.callBuiltin _ _ _ _).calm (.callBuiltin hclose _ _ _))
  cases callee with
  | send =>
    have hsend := hplain fun hclose => by cases hclose
    cases channel? with
    | none => exact hsend
    | some name =>
      obtain ⟨rest, rfl⟩ := h rfl name rfl
      rcases rest with _ | ⟨message, _ | ⟨v, rest⟩⟩
      · exact hsend
      · have heq : Exec.callBuiltin depth .send [.text name, message] line =
            Exec.textArgument .send line message >>= fun message => Exec.sendLine line name message :=
          rfl
        rw [heq, Traced.lift_bind]
        refine bind (op ((Exec.Oblivious.textArgument _ _ _).calm (.textArgument _ _ _))) fun _ => ?_
        exact sendLine _ _ _
      · exact hsend
  | close =>
    rcases args with _ | ⟨channel, _ | ⟨v, rest⟩⟩
    · exact op (.fail _ _)
    · simp only [Logged.callBuiltin, Exec.callBuiltin, Traced.lift_bind]
      refine bind (op ((Exec.Oblivious.textArgument _ _ _).calm (.textArgument _ _ _))) fun _ => ?_
      exact closeChannel _
    · exact op (.fail _ _)
  | _ => exact hplain fun hclose => by cases hclose

/-- The units of a block are joined in the same way. -/
theorem join (results : List UnitResult) :
    Matches p (Logged.op (Exec.join results)) (Traced.lift (Exec.join results)) := by
  obtain hjoin | ⟨e, -, hjoin⟩ := Exec.join_cases results
  · rw [hjoin]
    exact fun _ _ _ hfits => .ok hfits
  · rw [hjoin]
    exact fun _ _ _ _ => .error

/-- Units start where what is asked of them is the same with the log and without it. -/
theorem forkIf {budget : Nat} {units : List Stmt} {ok : ChannelLog → Trace → Machine → Prop}
    {ok' : Trace → Machine → Prop}
    (h : ∀ log tr m, ChannelLog.Fits p log tr m → (ok log tr m ↔ ok' tr m)) :
    Matches p (Logged.forkIf budget units ok) (Traced.forkIf budget units ok') := by
  intro log tr m hfits
  have hiff := h log tr m hfits
  rw [Logged.forkIf, Logged.lift_apply, Traced.forkIf, Traced.forkIf]
  by_cases hok : ok' tr m
  · rw [if_pos hok, if_pos (hiff.mpr hok)]
    exact .fork fun rs => .ok (hfits.withScopes hfits.labels rfl)
  · rw [if_neg hok, if_neg fun h => hok (hiff.mp h)]
    exact .exhausted

end Logged.Matches

end ParLang
