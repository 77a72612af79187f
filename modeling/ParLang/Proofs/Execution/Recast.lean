import ParLang.Proofs.Execution.Discipline
import ParLang.Proofs.Execution.InStep
import ParLang.Proofs.Execution.Relined
import ParLang.Proofs.Program.Relined
import ParLang.Proofs.Scope.Raised

/-!
# Programs recast

A `Recast` changes three things about a run that have no influence on what it does: the lines of the
program, how many empty scopes there are around all others, and how much depth there is to use. The
program, the functions that are known and the depths that they were defined at change with it
(`Machine.recast`). The interpreter runs a recast program in step with the program
(`recastsAt`), so that both print the same and end alike under every schedule.

What is to be shown of the scopes is that both runs leave as many as they open: that is where a stack on
top of empty scopes could be told from one that has no more.
-/

namespace ParLang

variable {α β : Type}

/-- How the budget of a second run compares with that of the first. -/
inductive Budgets where
  | same | more | fewer

/-- The second budget is as it should be. -/
def Budgets.Fit : Budgets → Nat → Nat → Prop
  | .same, n, n' => n = n'
  | .more, n, n' => n ≤ n'
  | .fewer, n, n' => n' ≤ n

/-- Depths that fit above zero fit one step down. -/
theorem Budgets.fit_succ {b : Budgets} {n n' : Nat} (h : b.Fit (n + 1) (n' + 1)) : b.Fit n n' := by
  cases b with
  | same => exact Nat.succ.inj h
  | more => exact Nat.le_of_succ_le_succ h
  | fewer => exact Nat.le_of_succ_le_succ h

/-- If one side has run out of depth and the other has not, the other has more of it. -/
theorem Budgets.eq_more {b : Budgets} {n : Nat} (h : b.Fit 0 (n + 1)) : b = .more := by
  cases b with
  | same => exact absurd h (Nat.succ_ne_zero n).symm
  | more => rfl
  | fewer => exact absurd h (Nat.not_succ_le_zero n)

/-- The same with the sides exchanged. -/
theorem Budgets.eq_fewer {b : Budgets} {n : Nat} (h : b.Fit (n + 1) 0) : b = .fewer := by
  cases b with
  | same => exact absurd h (Nat.succ_ne_zero n)
  | more => exact absurd h (Nat.not_succ_le_zero n)
  | fewer => rfl

/-- What is different about a second run. -/
structure Recast where
  /-- The line in the place of each line. -/
  line : Nat → Nat
  /-- What fails at no line still does. -/
  line_zero : line 0 = 0
  /-- How many more empty scopes are around all others. -/
  raise : Nat
  budgets : Budgets

/-- The function with other lines, as it is defined in a higher stack. -/
def Function.recast (c : Recast) (f : Function) : Function :=
  ⟨f.definition.relined c.line, f.depth + c.raise⟩

/-- The machine in the second run. -/
def Machine.recast (c : Recast) (m : Machine) : Machine :=
  { m with scopes := m.scopes.raised c.raise, functions := m.functions.map (Function.recast c) }

/-- The second machine is the first one recast. Under more scopes, every function was defined in some
scope: a call of it keeps one, which must not be one of those. -/
structure Machine.Recasts (c : Recast) (m m' : Machine) : Prop where
  eq : m' = m.recast c
  depth_pos : 0 < c.raise → ∀ g f, m.functions.find? g = some f → 0 < f.depth

/-- Two machines that differ in nothing but variables and functions are equal if these are. -/
theorem Machine.eq_of_bare {m m' : Machine} (h : m.bare = m'.bare) (hs : m.scopes = m'.scopes)
    (hf : m.functions = m'.functions) : m = m' := by
  cases m
  cases m'
  simp only [bare, mk.injEq] at h
  simp_all

namespace Recast

/-- What is compared of a run and the recast run. -/
def likeness (c : Recast) : Likeness where
  fork f f' := f.machine.Recasts c f'.machine ∧ c.budgets.Fit f.budget f'.budget ∧
    f'.units = f.units.map (Stmt.relined c.line)
  result r r' := r' = r.mapError (RuntimeError.relined c.line)
  first := c.budgets = .more
  second := c.budgets = .fewer

/-- The second end has the failure at the other line and the recast machine. -/
def Ends (c : Recast) (a b : Except RuntimeError α × Machine) : Prop :=
  b.1 = a.1.mapError (RuntimeError.relined c.line) ∧ a.2.Recasts c b.2

end Recast

/-- From recast machines the second execution is in step with the first. -/
def Exec.Recasts (c : Recast) (x y : Exec α) : Prop :=
  ∀ m m', m.Recasts c m' → (x m).InStep c.likeness c.Ends (y m')

namespace Exec.Recasts

variable {c : Recast} {x y : Exec α}

/-- What does nothing is recast as itself. -/
theorem pure (a : α) : Recasts c (Pure.pure a) (Pure.pure a) :=
  fun _ _ hm => .done ⟨rfl, hm⟩

/-- Where the first execution ends well only with what satisfies `P`, the second goes on from there. -/
theorem bind_ends {P : α → Prop} {g h : α → Exec β} (hxy : Recasts c x y)
    (hP : ∀ m es a m', (x m).Ends es (.ok a, m') → P a) (hgh : ∀ a, P a → Recasts c (g a) (h a)) :
    Recasts c (x >>= g) (y >>= h) := by
  intro m m' hm
  rw [bind_apply, bind_apply]
  have hends : ∀ es (r : Except RuntimeError α × Machine), (x m).Ends es r →
      ∀ a, r.1 = .ok a → P a := by
    rintro es ⟨r, m₁⟩ hr a rfl
    exact hP m es a m₁ hr
  refine ((hxy m m' hm).ends hends).bind ?_
  rintro ⟨r, m₁⟩ ⟨r', m₁'⟩ ⟨⟨hr, hm₁⟩, ha⟩
  obtain rfl : r' = _ := hr
  cases r with
  | error e => exact .done ⟨rfl, hm₁⟩
  | ok a => exact hgh a (ha a rfl) m₁ m₁' hm₁

/-- A sequence is recast part by part. -/
theorem bind {g h : α → Exec β} (hxy : Recasts c x y) (hgh : ∀ a, Recasts c (g a) (h a)) :
    Recasts c (x >>= g) (y >>= h) :=
  hxy.bind_ends (P := fun _ => True) (fun _ _ _ _ _ => trivial) fun a _ => hgh a

/-- A failure is recast as the same failure at the other line. -/
theorem fail (line : Nat) (cause : RuntimeError.Cause) :
    Recasts c (Exec.fail line cause : Exec α) (Exec.fail (c.line line) cause) :=
  fun _ _ hm => .done ⟨rfl, hm⟩

/-- So is a mismatch. -/
theorem mismatch (line : Nat) (what : Mismatch) :
    Recasts c (Exec.mismatch line what : Exec α) (Exec.mismatch (c.line line) what) :=
  fail line _

/-- What a pause shows of its place is no part of the recasting. -/
theorem pause (here here' : Checkpoint) : Recasts c (Exec.pause here) (Exec.pause here') := by
  rintro m _ ⟨rfl, hdepth⟩
  exact .pause rfl (.done ⟨rfl, rfl, hdepth⟩)

/-- Running out of depth on both sides is alike. -/
theorem exhausted : Recasts c (Exec.exhausted : Exec α) Exec.exhausted :=
  fun _ _ _ => .exhausted

/-- With less depth on the left, the right side may do what it likes once the left has run out. -/
theorem first (h : c.budgets = .more) (y : Exec α) : Recasts c Exec.exhausted y :=
  fun _ _ _ => .first h

/-- With less depth on the right, it is the left side that may. -/
theorem second (h : c.budgets = .fewer) (x : Exec α) : Recasts c x Exec.exhausted :=
  fun _ _ _ => .second h

/-- The machine that is read on both sides is recast too. -/
theorem machine_bind {g h : Machine → Exec α}
    (hgh : ∀ m m', m.Recasts c m' → Recasts c (g m) (h m')) :
    Recasts c (Exec.machine >>= g) (Exec.machine >>= h) :=
  fun m m' hm => hgh m m' hm m m' hm

/-- An operation on values does the same on every machine and fails at the line that it is given. -/
theorem oblivious (hx : x.Oblivious) (hy : x.relined c.line = y) : Recasts c x y := by
  subst hy
  rintro m _ ⟨rfl, hdepth⟩
  have hfirst := hx m
  have hsecond := hx (m.recast c)
  have hbare : (m.recast c).bare = m.bare := rfl
  rw [hbare] at hsecond
  rw [relined]
  -- Both are what the operation does on the bare machine.
  generalize x m = p, x m.bare = q, x (m.recast c) = p' at hfirst hsecond
  induction hfirst generalizing p' with
  | @done r m₁ hs hf he =>
    generalize hq : Process.done (r, m₁.bare) = q at hsecond
    cases hsecond with
    | @done r' m₂ hs' hf' he' =>
      obtain ⟨rfl, hm⟩ := Prod.mk.inj (Process.done.inj hq)
      refine .done ⟨rfl, ?_, hf ▸ hdepth⟩
      refine Machine.eq_of_bare hm.symm ?_ ?_
      · rw [hs', Machine.recast, Machine.recast, hs]
      · rw [hf', Machine.recast, Machine.recast, hf]
    | perform | exhausted => cases hq
  | @perform m₁ e k k' hs hf he hk ih =>
    generalize hq : Process.perform m₁.bare e k' = q at hsecond
    cases hsecond with
    | done | exhausted => cases hq
    | @perform m₂ e₂ k₂ k₂' hs' hf' he' hk' =>
      injection hq with hm heffect hreply
      subst heffect
      obtain rfl := eq_of_heq hreply
      have hunit : m₁.bare.unit = m₂.bare.unit := congrArg Machine.unit hm
      exact .perform hunit fun r => ih r _ (hk' r)
  | exhausted =>
    generalize hq : Process.exhausted = q at hsecond
    cases hsecond with
    | exhausted => exact .exhausted
    | done | perform => cases hq

/-! ## Variables and functions -/

/-- A name is declared in both machines, in scopes that correspond. -/
theorem declare (name : String) (v : Value) :
    Recasts c (Exec.declare name v) (Exec.declare name v) := by
  rintro m _ ⟨rfl, hdepth⟩
  exact .done ⟨rfl, rfl, hdepth⟩

/-- A function is defined in some scope, and in the recast machine in a higher one. -/
theorem define (d : FunctionDef Stmt) :
    Recasts c (Exec.define d) (Exec.define (d.relined c.line)) := by
  rintro m _ ⟨rfl, hdepth⟩
  refine .done ⟨rfl, ?_, fun hraise g f hf => ?_⟩
  · simp only [Machine.recast, NameMap.insert_map, Function.recast, Scopes.depth_raised]
    rfl
  · simp only [NameMap.find?_insert] at hf
    split at hf
    · obtain rfl := Option.some.inj hf
      exact m.scopes.depth_pos
    · exact hdepth hraise g f hf

/-- A name is found on both sides or on neither, and the complaint moves with its line. -/
theorem variableValue (line : Nat) (name : String) :
    Recasts c (Exec.variableValue line name) (Exec.variableValue (c.line line) name) := by
  refine machine_bind ?_
  rintro m _ ⟨rfl, -⟩
  have hfind : (m.recast c).scopes.find? name = m.scopes.find? name :=
    m.scopes.find?_raised c.raise name
  rw [hfind]
  cases m.scopes.find? name with
  | some v => exact pure v
  | none => exact fail line _

/-- The name of a function stands for the recast function, which was defined in some scope. -/
theorem functionNamed_bind {g h : Function → Exec α} (line : Nat) (callee : String)
    (hgh : ∀ f : Function, (0 < c.raise → 0 < f.depth) → Recasts c (g f) (h (f.recast c))) :
    Recasts c (Exec.functionNamed line callee >>= g) (Exec.functionNamed (c.line line) callee >>= h) := by
  rintro m _ ⟨rfl, hdepth⟩
  have hfind : (m.recast c).functions.find? callee =
      (m.functions.find? callee).map (Function.recast c) :=
    m.functions.find?_map _ _
  simp only [Exec.functionNamed, bind_apply, Exec.machine, Process.bind, hfind]
  cases hf : m.functions.find? callee with
  | none => exact .done ⟨rfl, rfl, hdepth⟩
  | some f => exact hgh f (fun hraise => hdepth hraise callee f hf) _ _ ⟨rfl, hdepth⟩

/-- A name is assigned on both sides or on neither. -/
theorem assignVariable (line : Nat) (name : String) (v : Value) :
    Recasts c (Exec.assignVariable line name v) (Exec.assignVariable (c.line line) name v) := by
  rintro m _ ⟨rfl, hdepth⟩
  have hassign : (m.recast c).scopes.assign? name v =
      (m.scopes.assign? name v).map (Scopes.raised c.raise) :=
    m.scopes.assign?_raised c.raise name v
  simp only [Exec.assignVariable, bind_apply, Exec.machine, Process.bind, hassign]
  cases m.scopes.assign? name v with
  | some scopes => exact .done ⟨rfl, rfl, hdepth⟩
  | none => exact .done ⟨rfl, rfl, hdepth⟩

/-! ## Blocks and calls -/

/-- A block opens and leaves a scope on top of the same scopes. -/
theorem inScope (hx : Leads Machine.Settles x) (hxy : Recasts c x y) :
    Recasts c (Exec.inScope x) (Exec.inScope y) := by
  rintro m _ ⟨rfl, hdepth⟩
  have hbody := hxy { m with scopes := m.scopes.push } { m.recast c with
    scopes := (m.recast c).scopes.push } ⟨rfl, hdepth⟩
  refine (hbody.ends fun es r hends => hx _ es r.1 r.2 hends).bind ?_
  rintro ⟨r, m₁⟩ ⟨r', m₁'⟩ ⟨⟨hr, rfl, hdepth₁⟩, hsettles⟩
  have hpop : 1 < m₁.scopes.depth := by
    have hopened := hsettles.scopes.depth_eq
    have hpos := m.scopes.depth_pos
    simp only [Scopes.depth_push] at hopened
    omega
  refine .done ⟨hr, ?_, hdepth₁⟩
  simp only [Machine.recast, Scopes.pop_raised c.raise hpop]

/-- A call hides the same scopes and brings them back. -/
theorem inCall {d : Nat} (hd : 0 < c.raise → 0 < d) (hxy : Recasts c x y) :
    Recasts c (Exec.inCall d x) (Exec.inCall (d + c.raise) y) := by
  rintro m _ ⟨rfl, hdepth⟩
  have henter := Scopes.enter_raised (s := m.scopes) hd
  have hbody := hxy { m with scopes := (m.scopes.enter d).2 } { m.recast c with
    scopes := (m.scopes.enter d).2.raised c.raise } ⟨rfl, hdepth⟩
  simp only [Exec.inCall, Machine.recast, henter]
  refine hbody.bind ?_
  rintro ⟨r, m₁⟩ ⟨r', m₁'⟩ ⟨hr, rfl, hdepth₁⟩
  refine .done ⟨hr, ?_, hdepth₁⟩
  simp only [Machine.recast, Scopes.leave_raised _ _ (m.scopes.enter_depth_pos d)]

/-! ## Parallel blocks -/

/-- The first failure of a block is the first one on the other side too, at its own line there. -/
theorem firstFailure_relined {f : Nat → Nat} {rs rs' : List UnitResult}
    (h : List.Forall₂ (fun r r' => r' = r.mapError (RuntimeError.relined f)) rs rs') :
    firstFailure rs' = (firstFailure rs).mapError (RuntimeError.relined f) := by
  induction h with
  | nil => rfl
  | @cons r r' rs rs' hr _ ih =>
    subst hr
    cases r with
    | error e => rfl
    | ok _ => exact ih

/-- Recast units run beside each other, and the first failure among them is the same. -/
theorem par {n n' : Nat} (hfit : c.budgets.Fit n n') (units : List Stmt) :
    Recasts c (Exec.fork n units >>= join) (Exec.fork n' (relinedStmts c.line units) >>= join) := by
  rintro m _ ⟨rfl, hdepth⟩
  refine .fork ⟨⟨rfl, hdepth⟩, hfit, relinedStmts_eq_map _ _⟩ fun rs rs' hrs => ?_
  have hfirst := firstFailure_relined hrs
  simp only [Process.bind, ExceptT.bindCont, join, hfirst]
  cases firstFailure rs with
  | ok _ => exact .done ⟨rfl, rfl, hdepth⟩
  | error e => exact .done ⟨rfl, rfl, hdepth⟩

/-- As many units get copies of the channels. -/
theorem shareWith (units : List Stmt) :
    Recasts c (Exec.shareWith units) (Exec.shareWith (relinedStmts c.line units)) := by
  have hunits : Exec.shareWith (relinedStmts c.line units) = Exec.shareWith units := by
    induction units with
    | nil => rfl
    | cons s rest ih =>
      rw [relinedStmts, Exec.shareWith, Exec.shareWith, ih]
  rw [hunits]
  exact .oblivious (.shareWith _) (Exec.relined_shareWith c.line_zero _)

/-! ## Comparing and writing out values

These are the operations that cost depth. -/

variable {n n' : Nat}

/-- A comparison of pairs is recast if that of one pair is. -/
theorem allEqual {equal equal' : Value → Value → Exec Bool}
    (h : ∀ a b, Recasts c (equal a b) (equal' a b)) (pairs : List (Value × Value)) :
    Recasts c (Exec.allEqual equal pairs) (Exec.allEqual equal' pairs) := by
  induction pairs with
  | nil => exact pure true
  | cons pair rest ih =>
    refine .bind (h pair.1 pair.2) fun holds => ?_
    cases holds with
    | true => exact ih
    | false => exact pure false

/-- Comparisons do not depend on lines, and on depth only in whether they come to an end. -/
theorem equalValues (hfit : c.budgets.Fit n n') (a b : Value) :
    Recasts c (Exec.equalValues n a b) (Exec.equalValues n' a b) := by
  induction n generalizing n' a b with
  | zero =>
    obtain ⟨r, hr⟩ | ⟨g, h, rfl, rfl, hzero, -⟩ := equalValues_cases a b
    · rw [hr, hr]
      exact pure r
    · cases n' with
      | zero => exact hzero ▸ exhausted
      | succ n' => exact hzero ▸ first (Budgets.eq_more hfit) _
  | succ n ih =>
    obtain ⟨r, hr⟩ | ⟨g, h, rfl, rfl, hzero, hsucc⟩ := equalValues_cases a b
    · rw [hr, hr]
      exact pure r
    · cases n' with
      | zero => exact hzero ▸ second (Budgets.eq_fewer hfit) _
      | succ n' =>
        rw [hsucc, hsucc]
        refine .bind (.oblivious (.perform rfl) rfl) fun xs =>
          .bind (.oblivious (.perform rfl) rfl) fun ys => ?_
        split
        · exact .allEqual (ih (Budgets.fit_succ hfit)) _
        · exact pure false

/-- Writing out one value after another is recast if writing out one value is. -/
theorem renderEach {render render' : Value → Exec String} (h : ∀ v, Recasts c (render v) (render' v))
    (vs : List Value) : Recasts c (Exec.renderEach render vs) (Exec.renderEach render' vs) := by
  induction vs with
  | nil => exact pure []
  | cons v rest ih => exact .bind (h v) fun _ => .bind ih fun _ => pure _

/-- Writing out a value does not depend on lines. -/
theorem renderValue (hfit : c.budgets.Fit n n') (v : Value) :
    Recasts c (Exec.renderValue n v) (Exec.renderValue n' v) := by
  induction n generalizing n' v with
  | zero =>
    obtain ⟨text, htext⟩ | ⟨h, rfl, hzero, -⟩ := renderValue_cases v
    · rw [htext, htext]
      exact pure text
    · cases n' with
      | zero => exact hzero ▸ exhausted
      | succ n' => exact hzero ▸ first (Budgets.eq_more hfit) _
  | succ n ih =>
    obtain ⟨text, htext⟩ | ⟨h, rfl, hzero, hsucc⟩ := renderValue_cases v
    · rw [htext, htext]
      exact pure text
    · cases n' with
      | zero => exact hzero ▸ second (Budgets.eq_fewer hfit) _
      | succ n' =>
        rw [hsucc, hsucc]
        exact .bind (.oblivious (.perform rfl) rfl) fun _ =>
          .bind (.renderEach (ih (Budgets.fit_succ hfit)) _) fun _ => pure _

/-- An operator is recast with its line, which shows in its complaints only. -/
theorem binaryValue (hfit : c.budgets.Fit n n') (op : BinaryOp) (l r : Value) (line : Nat) :
    Recasts c (Exec.binaryValue n op l r line) (Exec.binaryValue n' op l r (c.line line)) := by
  unfold Exec.binaryValue
  split
  · exact .bind (.equalValues hfit _ _) fun _ => pure _
  · exact .bind (.equalValues hfit _ _) fun _ => pure _
  · split
    · exact pure _
    · exact .bind (.oblivious (.perform rfl) rfl) fun _ => .bind (.oblivious (.perform rfl) rfl) fun _ =>
        .oblivious (.allocate _) rfl
    · split
      · exact pure _
      · exact mismatch _ _
    · exact mismatch _ _

/-- Printing is recast, and the text that is printed is the same. -/
theorem printValues (hfit : c.budgets.Fit n n') (line : Nat) (args : List Value) :
    Recasts c (Exec.printValues n line args) (Exec.printValues n' (c.line line) args) := by
  have hprint : Recasts c (do
        let texts ← Exec.renderEach (Exec.renderValue n) args
        let reply ← Exec.perform (.emit (String.intercalate " " texts))
        Exec.orFail line .writeOutput reply
        return Value.void) (do
        let texts ← Exec.renderEach (Exec.renderValue n') args
        let reply ← Exec.perform (.emit (String.intercalate " " texts))
        Exec.orFail (c.line line) .writeOutput reply
        return Value.void) :=
    .bind (.renderEach (.renderValue hfit) _) fun _ => .bind (.oblivious (.perform rfl) rfl) fun _ =>
      .bind (.oblivious (.orFail _ _ _) (relined_orFail _ _ _)) fun _ => pure _
  unfold Exec.printValues
  split
  · exact .bind (mismatch _ _) fun _ => hprint
  · exact hprint

/-- So is the truth of a text or a number. -/
theorem truthOf (hfit : c.budgets.Fit n n') (line : Nat) (v : Value) :
    Recasts c (Exec.truthOf n line v) (Exec.truthOf n' (c.line line) v) := by
  unfold Exec.truthOf
  split
  · exact pure _
  · exact pure _
  · split
    · exact pure _
    · split
      · exact pure _
      · exact mismatch _ _
  · exact .bind (.renderValue hfit _) fun _ => mismatch _ _

/-- **A built-in function fails at the line of its call.** -/
theorem callBuiltin (hfit : c.budgets.Fit n n') (callee : Builtin) (args : List Value) (line : Nat) :
    Recasts c (Exec.callBuiltin n callee args line)
      (Exec.callBuiltin n' callee args (c.line line)) := by
  have htext : ∀ v, Recasts c (Exec.textArgument callee line v)
      (Exec.textArgument callee (c.line line) v) := fun v =>
    .oblivious (.textArgument _ _ _) (relined_textArgument _ _ _)
  unfold Exec.callBuiltin
  split
  · exact .printValues hfit _ _
  · exact .bind (.oblivious (.perform rfl) rfl) fun _ =>
      .bind (.oblivious (.orFail _ _ _) (relined_orFail _ _ _)) fun _ => pure _
  · exact .bind (.oblivious (.numberArgument _ _ _) (relined_numberArgument _ _ _)) fun _ =>
      .bind (.oblivious (.perform rfl) rfl) fun _ => pure _
  · exact .bind (htext _) fun _ => .bind (htext _) fun _ =>
      .oblivious (.splitText _ _ _) (relined_splitText _ _ _)
  · exact .bind (htext _) fun _ => pure _
  · exact .bind (htext _) fun _ => pure _
  · refine .bind (htext _) fun text => ?_
    split
    · exact pure _
    · exact fail _ _
  · exact .bind (.renderValue hfit _) fun _ => pure _
  · exact .truthOf hfit _ _
  · exact .oblivious (.lengthOf _ _) (relined_lengthOf _ _)
  · exact .bind (htext _) fun _ => .bind (htext _) fun _ =>
      .oblivious (.sendLine _ _ _) (relined_sendLine _ _ _)
  · exact .bind (htext _) fun _ => .oblivious (.closeChannel _) (relined_closeChannel _)
  all_goals exact mismatch _ _

end Exec.Recasts

/-! ## The interpreter -/

open Exec (Recasts Leads)

/-- Every function of the interpreter runs recast at the budget `n'` as it runs at the budget `n`. -/
structure RecastsAt (c : Recast) (n n' : Nat) : Prop where
  eval : ∀ e, Recasts c (Exec.eval n e) (Exec.eval n' (e.relined c.line))
  evalAll : ∀ es, Recasts c (Exec.evalAll n es) (Exec.evalAll n' (relinedExprs c.line es))
  invoke : ∀ d args line, Recasts c (Exec.invoke n d args line)
    (Exec.invoke n' (d.relined c.line) args (c.line line))
  bindParams : ∀ function ps args line, Recasts c (Exec.bindParams n function ps args line)
    (Exec.bindParams n' function (ps.map (Param.relined c.line)) args (c.line line))
  run : ∀ s, Recasts c (Exec.run n s) (Exec.run n' (s.relined c.line))
  runAll : ∀ ss, Recasts c (Exec.runAll n ss) (Exec.runAll n' (relinedStmts c.line ss))
  test : ∀ e, Recasts c (Exec.test n e) (Exec.test n' (e.relined c.line))
  assign : ∀ a, Recasts c (Exec.assign n a) (Exec.assign n' (a.relined c.line))
  whileLoop : ∀ condition body, Recasts c (Exec.whileLoop n condition body)
    (Exec.whileLoop n' (condition.relined c.line) (relinedStmts c.line body))
  forLoop : ∀ condition update body, Recasts c (Exec.forLoop n condition update body)
    (Exec.forLoop n' (condition.relined c.line) (update.relined c.line) (relinedStmts c.line body))

namespace RecastsAt

variable {c : Recast} {n n' : Nat}

/-- A call is recast: the arguments first, then the function that the name stands for on each side, whose
body carries its own lines. -/
theorem call (ih : RecastsAt c n n') (line : Nat) (callee : String) (args : List Expr)
    (hb : Builtin.ofName? callee = none) :
    Recasts c (Exec.eval (n + 1) (.call line callee args))
      (Exec.eval (n' + 1) (.call (c.line line) callee (relinedExprs c.line args))) := by
  rw [Exec.eval_call hb, Exec.eval_call hb]
  refine .functionNamed_bind _ _ fun f hdepth => ?_
  have hcall : ∀ vs : List Value, Recasts c (do
      Exec.pause (.call line f)
      Exec.inCall f.depth (Exec.invoke n f.definition vs line)) (do
      Exec.pause (.call (c.line line) (f.recast c))
      Exec.inCall (f.recast c).depth (Exec.invoke n' (f.recast c).definition vs (c.line line))) :=
    fun vs => .bind (.pause _ _) fun _ => .inCall hdepth (ih.invoke _ _ _)
  have hrequired : (f.recast c).definition.required = f.definition.required :=
    f.definition.required_relined c.line
  have hparams : (f.recast c).definition.params.length = f.definition.params.length :=
    List.length_map ..
  refine .bind (ih.evalAll args) fun vs => ?_
  rw [hrequired, hparams]
  split
  · exact .bind (.mismatch _ _) fun _ => hcall vs
  · exact hcall vs

/-- The logical operators look at their right operand on both sides or on neither. -/
theorem logical (ih : RecastsAt c n n') (line : Nat) (op : BinaryOp) (left right : Expr) :
    Recasts c (do
      let l ← Exec.expectLogical op line (← Exec.eval n left)
      if l = (op == .or) then return Value.bool l
      else return .bool (← Exec.expectLogical op line (← Exec.eval n right))) (do
      let l ← Exec.expectLogical op (c.line line) (← Exec.eval n' (left.relined c.line))
      if l = (op == .or) then return Value.bool l
      else return .bool (← Exec.expectLogical op (c.line line)
        (← Exec.eval n' (right.relined c.line)))) := by
  have hexpect : ∀ v, Recasts c (Exec.expectLogical op line v)
      (Exec.expectLogical op (c.line line) v) := fun v =>
    .oblivious (.expectLogical _ _ _) (Exec.relined_expectLogical _ _ _)
  refine .bind (ih.eval left) fun v => .bind (hexpect v) fun l => ?_
  split
  · exact .pure _
  · exact .bind (ih.eval right) fun v' => .bind (hexpect v') fun _ => .pure _

/-- The other operators look at both operands first. -/
theorem strict (ih : RecastsAt c n n') (hfit : c.budgets.Fit n n') (line : Nat) (op : BinaryOp)
    (left right : Expr) :
    Recasts c (do
      let l ← Exec.eval n left
      let r ← Exec.eval n right
      Exec.binaryValue n op l r line) (do
      let l ← Exec.eval n' (left.relined c.line)
      let r ← Exec.eval n' (right.relined c.line)
      Exec.binaryValue n' op l r (c.line line)) :=
  .bind (ih.eval left) fun _ => .bind (ih.eval right) fun _ => .binaryValue hfit _ _ _ _

/-- An expression, from parts that are recast one step less deep. -/
theorem eval_succ (ih : RecastsAt c n n') (hfit : c.budgets.Fit n n') (e : Expr) :
    Recasts c (Exec.eval (n + 1) e) (Exec.eval (n' + 1) (e.relined c.line)) := by
  cases e with
  | number line x => exact .pure _
  | text line s => exact .pure _
  | truth line b => exact .pure _
  | ident line x => exact .variableValue line x
  | binary line op left right =>
    rw [Expr.relined, Exec.eval_binary, Exec.eval_binary]
    split
    · exact ih.logical line op left right
    · exact ih.strict hfit line op left right
  | unary line op operand =>
    exact .bind (ih.eval operand) fun _ =>
      .oblivious (.unaryValue _ _ _) (Exec.relined_unaryValue _ _ _)
  | call line callee args =>
    cases hb : Builtin.ofName? callee with
    | some builtin =>
      rw [Expr.relined, Exec.eval_builtin hb, Exec.eval_builtin hb]
      exact .bind (ih.evalAll args) fun _ => .callBuiltin hfit _ _ _
    | none => exact ih.call line callee args hb
  | index line base position =>
    have hline := position.line_relined c.line
    refine .bind (ih.eval base) fun _ => .bind (ih.eval position) fun v => ?_
    refine .bind (.oblivious (.expectNumber _ _) ?_) fun _ =>
      .oblivious (.indexValue _ _ _) (Exec.relined_indexValue _ _ _)
    exact hline ▸ Exec.relined_expectNumber position.line v
  | array line items =>
    exact .bind (ih.evalAll items) fun _ =>
      .oblivious (.allocate _) (Exec.relined_allocate _)

/-- A list of expressions is evaluated in the same order on both sides. -/
theorem evalAll_succ (ih : RecastsAt c n n') (es : List Expr) :
    Recasts c (Exec.evalAll (n + 1) es) (Exec.evalAll (n' + 1) (relinedExprs c.line es)) := by
  cases es with
  | nil => exact .pure _
  | cons e rest => exact .bind (ih.eval e) fun _ => .bind (ih.evalAll rest) fun _ => .pure _

/-- The body of a function runs in a scope of its own on both sides. -/
theorem invoke_succ (ih : RecastsAt c n n') (d : FunctionDef Stmt) (args : List Value) (line : Nat) :
    Recasts c (Exec.invoke (n + 1) d args line)
      (Exec.invoke (n' + 1) (d.relined c.line) args (c.line line)) := by
  refine .bind (ih.bindParams _ _ _ _) fun _ => .bind (ih.runAll _) fun flow => ?_
  cases flow with
  | _ => exact .pure _

/-- Parameters get their arguments or their defaults on both sides. -/
theorem bindParams_succ (ih : RecastsAt c n n') (function : String) (ps : List Param)
    (args : List Value) (line : Nat) :
    Recasts c (Exec.bindParams (n + 1) function ps args line)
      (Exec.bindParams (n' + 1) function (ps.map (Param.relined c.line)) args (c.line line)) := by
  cases ps with
  | nil => exact .pure _
  | cons p ps =>
    have hrest : ∀ (v : Value) (args : List Value), Recasts c (do
        Exec.declare p.name v
        Exec.bindParams n function ps args line) (do
        Exec.declare p.name v
        Exec.bindParams n' function (ps.map (Param.relined c.line)) args (c.line line)) :=
      fun v args => .bind (.declare _ _) fun _ => ih.bindParams _ _ _ _
    cases args with
    | cons v vs => exact hrest v vs
    | nil =>
      obtain ⟨l, name, type, default?⟩ := p
      cases default? with
      | some e => exact .bind (ih.eval e) fun v => hrest v []
      | none => exact .mismatch _ _

/-- Statements in sequence stop at the same one. -/
theorem runAll_succ (ih : RecastsAt c n n') (ss : List Stmt) :
    Recasts c (Exec.runAll (n + 1) ss) (Exec.runAll (n' + 1) (relinedStmts c.line ss)) := by
  cases ss with
  | nil => exact .pure _
  | cons s rest =>
    refine .bind (ih.run s) fun flow => ?_
    cases flow with
    | normal => exact ih.runAll rest
    | _ => exact .pure _

/-- A condition holds on both sides or on neither. -/
theorem test_succ (ih : RecastsAt c n n') (e : Expr) :
    Recasts c (Exec.test (n + 1) e) (Exec.test (n' + 1) (e.relined c.line)) := by
  refine .bind (ih.eval e) fun v => .oblivious (.expectCondition _ _) ?_
  exact e.line_relined c.line ▸ Exec.relined_expectCondition e.line v

/-- An assignment to a name, or to a cell behind any number of indexes. -/
theorem assign_succ (ih : RecastsAt c n n') (a : Assignment) :
    Recasts c (Exec.assign (n + 1) a) (Exec.assign (n' + 1) (a.relined c.line)) := by
  obtain ⟨line, target, value⟩ := a
  cases target with
  | «variable» l x => exact .bind (ih.eval value) fun _ => .assignVariable _ _ _
  | cell base position =>
    have hline := position.line_relined c.line
    refine .bind (ih.eval base) fun b => ?_
    cases b with
    | array h =>
      refine .bind (ih.eval position) fun v => .bind (.oblivious (.expectNumber _ _)
        (hline ▸ Exec.relined_expectNumber position.line v)) fun _ => ?_
      exact .bind (ih.eval value) fun _ =>
        .oblivious (.storeCell _ _ _ _) (Exec.relined_storeCell _ _ _ _)
    | _ => exact .mismatch _ _

/-- A loop makes the same rounds on both sides. -/
theorem whileLoop_succ (ih : RecastsAt c n n') (condition : Expr) (body : List Stmt) :
    Recasts c (Exec.whileLoop (n + 1) condition body)
      (Exec.whileLoop (n' + 1) (condition.relined c.line) (relinedStmts c.line body)) := by
  refine .bind (.pause _ _) fun _ => .bind (ih.test condition) fun holds => ?_
  cases holds with
  | false => exact .pure _
  | true =>
    refine .bind (.inScope ((disciplinedAt n).runAll body) (ih.runAll body)) fun flow => ?_
    cases flow with
    | «break» => exact .pure _
    | «return» v => exact .pure _
    | normal => exact ih.whileLoop _ _
    | «continue» => exact ih.whileLoop _ _

/-- So does one with an update behind its body. -/
theorem forLoop_succ (ih : RecastsAt c n n') (condition : Expr) (update : Assignment)
    (body : List Stmt) : Recasts c (Exec.forLoop (n + 1) condition update body)
      (Exec.forLoop (n' + 1) (condition.relined c.line) (update.relined c.line)
        (relinedStmts c.line body)) := by
  have hnext : Recasts c (do
      Exec.assign n update
      Exec.forLoop n condition update body) (do
      Exec.assign n' (update.relined c.line)
      Exec.forLoop n' (condition.relined c.line) (update.relined c.line)
        (relinedStmts c.line body)) :=
    .bind (ih.assign update) fun _ => ih.forLoop _ _ _
  refine .bind (.pause _ _) fun _ => .bind (ih.test condition) fun holds => ?_
  cases holds with
  | false => exact .pure _
  | true =>
    refine .bind (.inScope ((disciplinedAt n).runAll body) (ih.runAll body)) fun flow => ?_
    cases flow with
    | «break» => exact .pure _
    | «return» v => exact .pure _
    | normal => exact hnext
    | «continue» => exact hnext

/-- The host and the port of a channel, and what is done with them. -/
theorem endpoint (ih : RecastsAt c n n') (line : Nat) (host port : Expr)
    {f g : String → Nat → Exec α} (hfg : ∀ s i, Recasts c (f s i) (g s i)) :
    Recasts c (do
      let host ← Exec.hostOf line (← Exec.eval n host)
      let port ← Exec.portOf line (← Exec.eval n port)
      f host port) (do
      let host ← Exec.hostOf (c.line line) (← Exec.eval n' (host.relined c.line))
      let port ← Exec.portOf (c.line line) (← Exec.eval n' (port.relined c.line))
      g host port) := by
  refine .bind (ih.eval host) fun _ =>
    .bind (.oblivious (.hostOf _ _) (Exec.relined_hostOf _ _)) fun h => ?_
  refine .bind (ih.eval port) fun _ =>
    .bind (.oblivious (.portOf _ _) (Exec.relined_portOf _ _)) fun p => ?_
  exact hfg h p

/-- **A recast statement runs in step with the statement.** -/
theorem run_succ (ih : RecastsAt c n n') (hfit : c.budgets.Fit n n') (s : Stmt) :
    Recasts c (Exec.run (n + 1) s) (Exec.run (n' + 1) (s.relined c.line)) := by
  have hblock : ∀ ss, Recasts c (Exec.inScope (Exec.runAll n ss))
      (Exec.inScope (Exec.runAll n' (relinedStmts c.line ss))) := fun ss =>
    .inScope ((disciplinedAt n).runAll ss) (ih.runAll ss)
  cases s with
  | declare line x type value =>
    refine .bind (.pause _ _) fun _ => ?_
    exact .bind (ih.eval value) fun _ => .bind (.declare _ _) fun _ => .pure _
  | assign a =>
    refine .bind (.pause _ _) fun _ => ?_
    exact .bind (ih.assign a) fun _ => .pure _
  | function d =>
    refine .bind (.pause _ _) fun _ => ?_
    exact .bind (.define d) fun _ => .pure _
  | «return» line value =>
    refine .bind (.pause _ _) fun _ => ?_
    exact .bind (ih.eval value) fun _ => .pure _
  | branch line condition yes no? =>
    cases no? with
    | none =>
      refine .bind (.pause _ _) fun _ => .bind (ih.test condition) fun holds => ?_
      cases holds with
      | true => exact hblock _
      | false => exact .pure _
    | some no =>
      refine .bind (.pause _ _) fun _ => .bind (ih.test condition) fun holds => ?_
      cases holds with
      | true => exact hblock _
      | false => exact hblock _
  | «while» line condition body =>
    exact .bind (.pause _ _) fun _ => ih.whileLoop _ _
  | «for» line init condition update body =>
    refine .bind (.pause _ _) fun _ => .inScope ?_ ?_
    · exact .bind ((disciplinedAt n).run init) fun _ => ((disciplinedAt n).forLoop _ _ _).settles
    · exact .bind (ih.run init) fun _ => ih.forLoop _ _ _
  | «break» line => exact .bind (.pause _ _) fun _ => .pure _
  | «continue» line => exact .bind (.pause _ _) fun _ => .pure _
  | seq body => exact .bind (.pause _ _) fun _ => hblock _
  | block body => exact .bind (.pause _ _) fun _ => hblock _
  | par units =>
    exact .bind (.pause _ _) fun _ => .bind (.shareWith _) fun _ => .par hfit units.statements
  | expr line value =>
    exact .bind (.pause _ _) fun _ => .bind (ih.eval value) fun _ => .pure _
  | server ch =>
    refine .bind (.pause _ _) fun _ => .bind (ih.eval _) fun _ =>
      ih.endpoint _ _ _ fun host port => ?_
    exact .bind (.oblivious (.openServer _ _ _ _) (Exec.relined_openServer _ _ _ _)) fun _ => .pure _
  | client ch =>
    refine .bind (.pause _ _) fun _ => ih.endpoint _ _ _ fun host port => ?_
    exact .bind (.oblivious (.attach _ _ _ _) (Exec.relined_attach _ _ _ _)) fun _ =>
      .bind (.declare _ _) fun _ => .pure _

end RecastsAt

/-- **The interpreter runs a recast program in step with the program.** -/
theorem recastsAt {c : Recast} {n n' : Nat} (hfit : c.budgets.Fit n n') : RecastsAt c n n' := by
  induction n generalizing n' with
  | zero =>
    cases n' with
    | zero =>
      exact ⟨fun _ => .exhausted, fun _ => .exhausted, fun _ _ _ => .exhausted,
        fun _ _ _ _ => .exhausted, fun _ => .exhausted, fun _ => .exhausted, fun _ => .exhausted,
        fun _ => .exhausted, fun _ _ => .exhausted, fun _ _ _ => .exhausted⟩
    | succ n' =>
      have h := Budgets.eq_more hfit
      exact ⟨fun _ => .first h _, fun _ => .first h _, fun _ _ _ => .first h _,
        fun _ _ _ _ => .first h _, fun _ => .first h _, fun _ => .first h _, fun _ => .first h _,
        fun _ => .first h _, fun _ _ => .first h _, fun _ _ _ => .first h _⟩
  | succ n ih =>
    cases n' with
    | zero =>
      have h := Budgets.eq_fewer hfit
      exact ⟨fun _ => .second h _, fun _ => .second h _, fun _ _ _ => .second h _,
        fun _ _ _ _ => .second h _, fun _ => .second h _, fun _ => .second h _,
        fun _ => .second h _, fun _ => .second h _, fun _ _ => .second h _,
        fun _ _ _ => .second h _⟩
    | succ n' =>
      have hrest := Budgets.fit_succ hfit
      have ih := ih hrest
      exact ⟨ih.eval_succ hrest, ih.evalAll_succ, ih.invoke_succ, ih.bindParams_succ, ih.run_succ hrest,
        ih.runAll_succ, ih.test_succ, ih.assign_succ, ih.whileLoop_succ, ih.forLoop_succ⟩

/-- Units of a parallel block run recast as they run. -/
theorem Recast.starts (c : Recast) : c.likeness.Starts := by
  refine ⟨?_, ?_, fun message => ?_⟩
  · rintro f f' ⟨-, -, hunits⟩
    rw [hunits, List.length_map]
  · rintro f f' ⟨⟨hm, hdepth⟩, hfit, hunits⟩ i s s' hs hs'
    rw [hunits, List.getElem?_map, hs] at hs'
    obtain rfl := Option.some.inj hs'
    have hrun : Recasts c (Exec.runUnit f.budget s) (Exec.runUnit f'.budget (s.relined c.line)) :=
      .bind ((recastsAt hfit).run s) fun _ => .pure ()
    have hchild : f'.machine.child i = (f.machine.child i).recast c := by
      rw [hm]
      rfl
    exact (hrun _ _ ⟨hchild, hdepth⟩).imp fun _ _ hends => hends.1
  · show Except.error (Task.panicked message) = .error ⟨_, c.line 0⟩
    rw [c.line_zero, Task.panicked]

/-- A program runs recast as it runs. -/
theorem runProgram_recasts {c : Recast} {n n' : Nat} (hfit : c.budgets.Fit n n') (ss : List Stmt) :
    Recasts c (Exec.runProgram n ss) (Exec.runProgram n' (relinedStmts c.line ss)) := by
  induction ss with
  | nil => exact .pure ()
  | cons s rest ih => exact .bind ((recastsAt hfit).run s) fun _ => ih

end ParLang
