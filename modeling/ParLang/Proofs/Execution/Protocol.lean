import Mathlib.Order.Basic
import ParLang.Proofs.Execution.Runs

/-!
# Protocols between units and the world

A property of every run under every schedule is proved unit by unit. A `Protocol` says what a unit
promises with each request, what it may rely on in the reply, and what is known about the world in
the meantime. Other units may add to what is known while a unit waits, so all of it is kept as
knowledge grows. A promise may depend on a choice of the unit, which is made when it asks and which
the world never sees.

What is around the program is not known about. It may change at any time, answer with anything that it can
be asked for, and tear down a unit.

`Process.Keeps` is the promise of one process, and `Process.keeps_bind` composes it along a program.
`Task.Keeps.take` says what one turn preserves, `Task.Keeps.run` what a whole run does.
-/

namespace ParLang

/-- What units promise and rely on, with `κ` for what is known about the world and `γ` for what a unit
chooses with a request. -/
structure Protocol (κ γ : Type) [Preorder κ] where
  /-- What a request shows of the machine. -/
  machine : κ → Machine → Prop
  /-- What a unit promises of an effect that it asks for, with its machine as it is then. -/
  request : κ → γ → Machine → Effect → Prop
  /-- What it may rely on in the reply. -/
  reply : κ → γ → (e : Effect) → e.Reply → Prop
  /-- What it promises of units that it wants to run. -/
  fork : κ → Fork → Prop
  /-- What it may rely on in their results. -/
  result : UnitResult → Prop
  /-- What the knowledge says about the world. -/
  world : κ → World → Prop
  machine_mono : ∀ {k k' m}, k ≤ k' → machine k m → machine k' m
  request_mono : ∀ {k k' g m e}, k ≤ k' → request k g m e → request k' g m e
  fork_mono : ∀ {k k' f}, k ≤ k' → fork k f → fork k' f
  fork_machine : ∀ {k f}, fork k f → machine k f.machine
  /-- The world answers as the units rely on. -/
  answer : ∀ {k w g e} (m : Machine), world k w → request k g m e →
    ∃ k', k ≤ k' ∧ world k' (w.answer m.unit e).2 ∧ reply k' g e (w.answer m.unit e).1
  /-- What the surroundings answer they may rely on, whatever it is. -/
  outside : ∀ {k g m e} (r : e.Reply), request k g m e → e.isOutside = true → reply k g e r
  /-- Nothing is known of the surroundings. -/
  around : ∀ {k w} (s : Surroundings), world k w → world k (w.around s)
  /-- A unit may be torn down. -/
  panic : ∀ message, result (.error (Task.panicked message))

variable {κ γ α β : Type} [Preorder κ]

/-! ## Processes -/

namespace Process

/-- The process keeps the protocol and ends only with results as in `post`. -/
def Keeps (P : Protocol κ γ) (post : κ → α → Prop) (k : κ) : Process α → Prop
  | .done a => post k a
  | .perform m e c =>
    P.machine k m ∧ ∃ g, P.request k g m e ∧
      ∀ k' r, k ≤ k' → P.reply k' g e r → (c r).Keeps P post k'
  | .fork f c =>
    P.fork k f ∧ ∀ k' rs, k ≤ k' → (∀ r ∈ rs, P.result r) → (c rs).Keeps P post k'
  | .exhausted => True

variable {P : Protocol κ γ} {post post' : κ → α → Prop} {k k' : κ} {p : Process α}

/-- A process that ends with results as in `post` ends with results as in every weaker condition; in
the comparison the knowledge is at least that of the start. -/
theorem Keeps.weaken (h : p.Keeps P post k) (hpost : ∀ k' a, k ≤ k' → post k' a → post' k' a) :
    p.Keeps P post' k := by
  induction p generalizing k with
  | done a => exact hpost k a le_rfl h
  | perform m e c ih =>
    obtain ⟨hm, g, hreq, hc⟩ := h
    refine ⟨hm, g, hreq, fun k₁ r hk hr => ih r (hc k₁ r hk hr) ?_⟩
    exact fun k₂ a hk₂ => hpost k₂ a (hk.trans hk₂)
  | fork f c ih =>
    obtain ⟨hf, hc⟩ := h
    refine ⟨hf, fun k₁ rs hk hrs => ih rs (hc k₁ rs hk hrs) ?_⟩
    exact fun k₂ a hk₂ => hpost k₂ a (hk.trans hk₂)
  | exhausted => trivial

/-- What a process promises it still promises when more is known. -/
theorem Keeps.mono (hpost : ∀ {k k' a}, k ≤ k' → post k a → post k' a) (hk : k ≤ k')
    (h : p.Keeps P post k) : p.Keeps P post k' := by
  cases p with
  | done a => exact hpost hk h
  | perform m e c =>
    obtain ⟨hm, g, hreq, hc⟩ := h
    exact ⟨P.machine_mono hk hm, g, P.request_mono hk hreq,
      fun k₁ r hk₁ hr => hc k₁ r (hk.trans hk₁) hr⟩
  | fork f c =>
    obtain ⟨hf, hc⟩ := h
    exact ⟨P.fork_mono hk hf, fun k₁ rs hk₁ hrs => hc k₁ rs (hk.trans hk₁) hrs⟩
  | exhausted => trivial

/-- A process that goes on with `f` keeps the protocol if it ends where `f` does. -/
theorem keeps_bind {post : κ → β → Prop} {f : α → Process β} :
    (p.bind f).Keeps P post k ↔ p.Keeps P (fun k a => (f a).Keeps P post k) k := by
  induction p generalizing k with
  | done a => exact Iff.rfl
  | perform m e c ih => simp only [bind, Keeps, ih]
  | fork u c ih => simp only [bind, Keeps, ih]
  | exhausted => exact Iff.rfl

end Process

/-! ## Tasks -/

namespace Task

variable {P : Protocol κ γ} {k k' : κ} {t t' : Task} {w w' : World}

/-- What a unit promises of its end. -/
def EndsAs (P : Protocol κ γ) (k : κ) (r : UnitResult × Machine) : Prop :=
  P.machine k r.2 ∧ P.result r.1

/-- What holds of a result by now holds of it later. -/
theorem EndsAs.mono {r : UnitResult × Machine} (hk : k ≤ k') (h : EndsAs P k r) : EndsAs P k' r :=
  ⟨P.machine_mono hk h.1, h.2⟩

mutual

/-- Every unit of the task keeps the protocol. -/
def Keeps (P : Protocol κ γ) (k : κ) : Task → Prop
  | .running _ p => p.Keeps P (EndsAs P) k
  | .waiting f units c =>
    P.machine k f.machine ∧ KeepAll P k units ∧
      ∀ k' rs, k ≤ k' → (∀ r ∈ rs, P.result r) → (c rs).Keeps P (EndsAs P) k'
  | .finished _ r m => EndsAs P k (r, m)

/-- `Task.Keeps` of each of them. -/
def KeepAll (P : Protocol κ γ) (k : κ) : List Task → Prop
  | [] => True
  | t :: rest => t.Keeps P k ∧ KeepAll P k rest

end

/-- `KeepAll` in the natural per-element form. -/
theorem keepAll_iff {ts : List Task} : KeepAll P k ts ↔ ∀ t ∈ ts, t.Keeps P k := by
  induction ts with
  | nil => simp [KeepAll]
  | cons t rest ih => simp [KeepAll, ih]

mutual

/-- A task that keeps the protocol keeps it when more is known. -/
theorem Keeps.mono (hk : k ≤ k') : ∀ {t : Task}, t.Keeps P k → t.Keeps P k'
  | .running _ _, h => Process.Keeps.mono EndsAs.mono hk h
  | .waiting _ _ _, ⟨hm, hu, hc⟩ =>
    ⟨P.machine_mono hk hm, KeepAll.mono hk hu, fun k₁ rs hk₁ => hc k₁ rs (hk.trans hk₁)⟩
  | .finished _ _ _, h => EndsAs.mono hk h

/-- So do the units of a block. -/
theorem KeepAll.mono (hk : k ≤ k') : ∀ {ts : List Task}, KeepAll P k ts → KeepAll P k' ts
  | [], _ => trivial
  | _ :: _, ⟨ht, hrest⟩ => ⟨ht.mono hk, KeepAll.mono hk hrest⟩

end

/-- The units that a promised fork starts keep the protocol. -/
def ForksKeep (P : Protocol κ γ) : Prop :=
  ∀ k f, P.fork k f → ∀ s ∈ f.units, ∀ i,
    (Exec.runUnit f.budget s (f.machine.child i)).Keeps P (EndsAs P) k

/-- The units of a block keep the protocol if each statement of it does in the machine of its child. -/
theorem keepAll_unitsFrom {f : Fork} {units : List Stmt} {clock i : Nat}
    (h : ∀ s ∈ units, ∀ i, (Exec.runUnit f.budget s (f.machine.child i)).Keeps P (EndsAs P) k) :
    KeepAll P k (unitsFrom clock f i units) := by
  induction units generalizing i with
  | nil => trivial
  | cons s rest ih =>
    exact ⟨h s (by simp) i, ih fun s' hs' => h s' (by simp [hs'])⟩

/-- Results are those of finished units, so they are as promised. -/
theorem result_of_results? {ts : List Task} {clock : Nat} {rs : List UnitResult}
    (h : KeepAll P k ts) (hrs : results? ts = some (clock, rs)) : ∀ r ∈ rs, P.result r := by
  induction ts generalizing clock rs with
  | nil =>
    simp only [results?, Option.some.injEq, Prod.mk.injEq] at hrs
    simp [← hrs.2]
  | cons t rest ih =>
    cases t with
    | running c p => simp [results?] at hrs
    | waiting f us c => simp [results?] at hrs
    | finished c r m =>
      simp only [results?, Option.map_eq_some_iff, Prod.mk.injEq] at hrs
      obtain ⟨⟨clock', rs'⟩, hrest, -, rfl⟩ := hrs
      intro r' hr'
      rcases List.mem_cons.mp hr' with rfl | hr'
      · exact h.1.2
      · exact ih h.2 hrest r' hr'

/-- Every machine that is shown is as the protocol says. -/
theorem Keeps.machine {m : Machine} (h : t.Keeps P k) (hm : t.Shows m) : P.machine k m := by
  induction hm with
  | asking => exact h.1
  | forking => exact P.fork_machine h.1
  | ending => exact h.1
  | waiting => exact h.1
  | finished => exact h.1
  | unit hu _ ih => exact ih (keepAll_iff.mp h.2.1 _ hu)

/-- One step of a running unit. -/
theorem keeps_stepProcess (hforks : ForksKeep P) {clock : Nat} {p : Process (UnitResult × Machine)}
    (h : p.Keeps P (EndsAs P) k) (hw : P.world k w)
    (hstep : stepProcess w clock p = some (t', w')) :
    ∃ k', k ≤ k' ∧ t'.Keeps P k' ∧ P.world k' w' := by
  cases p with
  | done r =>
    obtain ⟨r, m⟩ := r
    simp only [stepProcess, Option.some.injEq, Prod.mk.injEq] at hstep
    obtain ⟨rfl, rfl⟩ := hstep
    exact ⟨k, le_rfl, h, hw⟩
  | perform m e c =>
    obtain ⟨-, g, hreq, hc⟩ := h
    simp only [stepProcess] at hstep
    split at hstep
    · simp only [Option.some.injEq, Prod.mk.injEq] at hstep
      obtain ⟨rfl, rfl⟩ := hstep
      obtain ⟨k', hk, hw', hr⟩ := P.answer m hw hreq
      exact ⟨k', hk, hc k' _ hk hr, hw'⟩
    · cases hstep
  | fork f c =>
    obtain ⟨hf, hc⟩ := h
    simp only [stepProcess, Option.some.injEq, Prod.mk.injEq] at hstep
    obtain ⟨rfl, rfl⟩ := hstep
    exact ⟨k, le_rfl, ⟨P.fork_machine hf, keepAll_unitsFrom (hforks k f hf), hc⟩, hw⟩
  | exhausted => cases hstep

/-- One step of a task's own unit. -/
theorem keeps_step (hforks : ForksKeep P) (h : t.Keeps P k) (hw : P.world k w)
    (hstep : step w t = some (t', w')) : ∃ k', k ≤ k' ∧ t'.Keeps P k' ∧ P.world k' w' := by
  cases t with
  | running clock p => exact keeps_stepProcess hforks h hw hstep
  | waiting f units c =>
    obtain ⟨-, hu, hc⟩ := h
    simp only [step, Option.map_eq_some_iff, Prod.mk.injEq] at hstep
    obtain ⟨⟨clock, rs⟩, hrs, rfl, rfl⟩ := hstep
    exact ⟨k, le_rfl, hc k rs le_rfl (result_of_results? hu hrs), hw⟩
  | finished clock r m => cases hstep

/-- A step in which the surroundings answer as they like. -/
theorem keeps_heed {reply : (e : Effect) → e.Reply} (h : t.Keeps P k) (hw : P.world k w)
    (hstep : heed reply w t = some (t', w')) : ∃ k', k ≤ k' ∧ t'.Keeps P k' ∧ P.world k' w' := by
  obtain ⟨clock, m, e, c, rfl, houtside, rfl, rfl⟩ := heed_eq_some.mp hstep
  obtain ⟨-, g, hreq, hc⟩ := h
  exact ⟨k, le_rfl, hc k _ le_rfl (P.outside _ hreq houtside), hw⟩

/-- What is left of a unit that panics is its machine as it was shown. -/
theorem keeps_tearDown {message : String} (h : t.Keeps P k) (hw : P.world k w)
    (hstep : tearDown message w t = some (t', w')) :
    ∃ k', k ≤ k' ∧ t'.Keeps P k' ∧ P.world k' w' := by
  obtain ⟨clock, m, hm, rfl, rfl⟩ := exists_of_tearDown hstep
  exact ⟨k, le_rfl, ⟨h.machine hm, P.panic message⟩, hw⟩

/-- Whichever unit acts, all units keep the protocol if this one does. -/
theorem Keeps.act {act : Task → Option (Task × World)}
    (hact : ∀ {t t' w'}, t.Keeps P k → act t = some (t', w') →
      ∃ k', k ≤ k' ∧ t'.Keeps P k' ∧ P.world k' w')
    {way : List Nat} (h : t.Keeps P k) (hstep : actAt act way t = some (t', w')) :
    ∃ k', k ≤ k' ∧ t'.Keeps P k' ∧ P.world k' w' := by
  induction way generalizing t t' with
  | nil => exact hact h hstep
  | cons i way ih =>
    obtain ⟨f, units, c, u, u', rfl, hu, hunit, rfl⟩ := exists_of_actAt_cons hstep
    obtain ⟨hm, hunits, hc⟩ := h
    rw [keepAll_iff] at hunits
    obtain ⟨k', hk, hu', hw'⟩ := ih (hunits u (List.mem_of_getElem? hu)) hunit
    refine ⟨k', hk, ⟨P.machine_mono hk hm, keepAll_iff.mpr fun v hv => ?_,
      fun k₁ rs hk₁ => hc k₁ rs (hk.trans hk₁)⟩, hw'⟩
    rcases List.mem_or_eq_of_mem_set hv with hv | rfl
    · exact (hunits v hv).mono hk
    · exact hu'

/-- **One turn.** Whoever acts, and whatever the surroundings do about it, all units keep the protocol
behind the turn. -/
theorem Keeps.take (hforks : ForksKeep P) {turn : Turn} (h : t.Keeps P k) (hw : P.world k w)
    (htake : Task.take turn t w = some (t', w')) :
    ∃ k', k ≤ k' ∧ t'.Keeps P k' ∧ P.world k' w' := by
  cases turn with
  | unit way => exact h.act (fun h => keeps_step hforks h hw) htake
  | answered way reply => exact h.act (fun h => keeps_heed h hw) htake
  | outside change =>
    obtain ⟨rfl, rfl⟩ := Prod.mk.inj (Option.some.inj htake)
    exact ⟨k, le_rfl, h, P.around _ hw⟩
  | panic i way message => exact h.act (fun h => keeps_tearDown h hw) htake

/-! ## Runs -/

/-- **A whole run.** At every point of every run all units keep the protocol. -/
theorem Keeps.run (hforks : ForksKeep P) (h : t.Keeps P k) (hw : P.world k w)
    (hrun : Reaches t w t' w') : ∃ k', k ≤ k' ∧ t'.Keeps P k' ∧ P.world k' w' := by
  induction hrun with
  | start => exact ⟨k, le_rfl, h, hw⟩
  | turn _ _ htake ih =>
    obtain ⟨k₁, hk₁, ht₁, hw₁⟩ := ih
    obtain ⟨k₂, hk₂, ht₂, hw₂⟩ := ht₁.take hforks hw₁ htake
    exact ⟨k₂, hk₁.trans hk₂, ht₂, hw₂⟩

/-- Every request is as the protocol says. -/
theorem Keeps.request {m : Machine} {e : Effect} (h : t.Keeps P k) (he : t.Asks m e) :
    ∃ g, P.request k g m e := by
  induction he with
  | asking =>
    obtain ⟨-, g, hreq, -⟩ := h
    exact ⟨g, hreq⟩
  | unit hu _ ih => exact ih (keepAll_iff.mp h.2.1 _ hu)

/-- Every failure is as the protocol says. -/
theorem Keeps.result {e : RuntimeError} (h : t.Keeps P k) (he : t.Fails e) : P.result (.error e) := by
  induction he with
  | ending => exact h.2
  | finished => exact h.2
  | unit hu _ ih => exact ih (keepAll_iff.mp h.2.1 _ hu)

end Task

/-! ## Executions -/

/-- Going on with the result alone changes nothing. -/
theorem Process.bind_done (p : Process α) : p.bind .done = p := by
  induction p with
  | done a => rfl
  | perform m e k ih => simp only [Process.bind, ih]
  | fork f k ih => simp only [Process.bind, ih]
  | exhausted => rfl

/-- It does not matter how a sequence of three is grouped. -/
theorem Process.bind_assoc (p : Process α) (f : α → Process β) (g : β → Process γ) :
    (p.bind f).bind g = p.bind fun a => (f a).bind g := by
  induction p with
  | done a => rfl
  | perform m e k ih => simp only [Process.bind, ih]
  | fork u k ih => simp only [Process.bind, ih]
  | exhausted => rfl

/-- What comes behind an execution is to be compared for a value and for a failure. -/
theorem Process.bind_congr {p : Process (Except RuntimeError α × Machine)}
    {f g : Except RuntimeError α × Machine → Process β} (hok : ∀ a m, f (.ok a, m) = g (.ok a, m))
    (herror : ∀ e m, f (.error e, m) = g (.error e, m)) : p.bind f = p.bind g := by
  congr 1
  funext ⟨r, m⟩
  cases r with
  | ok a => exact hok a m
  | error e => exact herror e m

namespace Exec

variable {P : Protocol κ γ} {k : κ} {m : Machine}

/-- How an execution goes on: with the value of the part that ended well, and not at all after a failure. -/
theorem bind_apply (x : Exec α) (f : α → Exec β) (m : Machine) :
    (x >>= f) m = (x m).bind fun
      | (.ok a, m') => f a m'
      | (.error e, m') => .done (.error e, m') := by
  show (x m).bind _ = _
  exact Process.bind_congr (fun _ _ => rfl) fun _ _ => rfl

/-- It does not matter how three executions in sequence are grouped. -/
theorem bind_assoc (x : Exec α) (f : α → Exec β) (g : β → Exec γ) :
    x >>= f >>= g = x >>= fun a => f a >>= g := by
  funext m
  rw [bind_apply, bind_apply, bind_apply, Process.bind_assoc]
  exact Process.bind_congr (fun a m' => (bind_apply (f a) g m').symm) fun _ _ => rfl

/-- The execution keeps the protocol from the machine `m` on and ends as in `post`. -/
def Keeps (P : Protocol κ γ) (post : κ → Except RuntimeError α → Machine → Prop) (k : κ)
    (m : Machine) (x : Exec α) : Prop :=
  (x m).Keeps P (fun k r => post k r.1 r.2) k

end Exec

end ParLang
