import ParLang.Proofs.Parallel.Alone
import ParLang.Proofs.Parallel.Independent

/-!
# Independent units under every schedule

A parallel block of independent units that come to an end when they run alone comes to an end under
every schedule, and always to the same one (`Machine.units_run_as_alone`). Each unit does at its turns
what it does when it runs alone under them: it comes to the same result, and prints the same lines in
the same order. What the block prints is an interleaving of these lines, its result is the first
failure in the order of the source, and it leaves the machine as it was.
-/

namespace ParLang

namespace Task

/-- The task has come to its end. -/
def isFinished : Task → Bool
  | .finished _ _ _ => true
  | _ => false

variable {w w' : World} {p q : Process (UnitResult × Machine)} {n n' N : Nat} {r : UnitResult}

/-! ## Steps in front of a block -/

/-- The process comes to `q` in `n` steps of the same length that change nothing in the world and print
nothing. -/
inductive Leads (w : World) (q : Process (UnitResult × Machine)) :
    Process (UnitResult × Machine) → Nat → Prop where
  | here : Leads w q q 0
  | step {m e k n} (hcan : w.canAnswer m.unit e = true) (hsame : (w.answer m.unit e).2 = w)
      (hline : e.line? = none) (hduration : e.duration = 1)
      (h : Leads w q (k (w.answer m.unit e).1) n) : Leads w q (.perform m e k) (n + 1)

/-- Steps that lead to a process may be followed by others. -/
theorem Leads.trans (h : Leads w q p n) {q' : Process (UnitResult × Machine)} (h' : Leads w q' q n') :
    Leads w q' p (n' + n) := by
  induction h with
  | here => exact h'
  | step hcan hsame hline hduration _ ih => exact .step hcan hsame hline hduration ih

/-- A process that is led to runs alone, and so does the one that leads there. -/
theorem Leads.alone (h : Leads w q p n) (hq : q.Alone w N r) : p.Alone w (N + n) r := by
  induction h with
  | here => exact hq
  | step hcan hsame _ _ _ ih => exact .perform hcan (hsame.symm ▸ ih)

/-- A run of such a process is on its way to `q`, or is a run from there. -/
theorem follow_of_leads (h : Leads w q p n) {clock : Nat} {ways : List (List Nat)} {t : Task}
    (hrun : follow ways (.running clock p) w = some (t, w')) :
    (∃ c p', t = .running c p' ∧ (∀ i, turnsOf i ways = []) ∧
      lines ways (.running clock p) w = []) ∨
    ∃ ways', ways = List.replicate n [] ++ ways' ∧
      follow ways' (.running (clock + n) q) w = some (t, w') ∧
      lines ways (.running clock p) w = lines ways' (.running (clock + n) q) w := by
  induction h generalizing clock ways with
  | here => exact .inr ⟨ways, rfl, hrun, rfl⟩
  | @step m e k n hcan hsame hline hduration _ ih =>
    cases ways with
    | nil =>
      obtain ⟨rfl, -⟩ := Prod.mk.inj (Option.some.inj hrun)
      exact .inl ⟨_, _, rfl, fun _ => rfl, rfl⟩
    | cons way ways =>
      obtain ⟨t₁, w₁, hstep, hrest⟩ := follow_cons.mp hrun
      cases way with
      | cons i way => cases hstep
      | nil =>
        rw [stepAt_perform hcan, hsame, hduration] at hstep
        obtain ⟨rfl, rfl⟩ := Prod.mk.inj (Option.some.inj hstep)
        have hlines : lines ([] :: ways) (.running clock (.perform m e k)) w =
            lines ways (.running (clock + 1) (k (w.answer m.unit e).1)) w := by
          rw [lines_cons (stepAt_perform hcan), hsame, hduration, lineAt?, effectAt?, Option.bind_some,
            hline]
          rfl
        rcases ih hrest with ⟨c, p', rfl, hturns, hquiet⟩ | ⟨ways', rfl, hrest', hlines'⟩
        · exact .inl ⟨c, p', rfl, hturns, hlines.trans hquiet⟩
        · rw [Nat.add_right_comm clock 1 n] at hrest' hlines'
          exact .inr ⟨ways', rfl, hrest', hlines.trans hlines'⟩

end Task

/-! ## Blocks -/

/-- How many copies of channels the units of a block take. -/
def Machine.copies (m : Machine) (b : Block Stmt) : Nat :=
  b.statements.length * m.channels.entries.length

namespace Exec

/-- No unit failed if each of them ended well. -/
theorem firstFailure_eq_ok_iff {rs : List UnitResult} :
    firstFailure rs = .ok () ↔ ∀ r ∈ rs, r = .ok () := by
  induction rs with
  | nil => simp [firstFailure]
  | cons r rest ih =>
    cases r with
    | ok a => simp [firstFailure, ih]
    | error e => simp [firstFailure]

/-- The first failure is the one with no failure in front of it. -/
theorem firstFailure_eq_error_iff {rs : List UnitResult} {e : RuntimeError} :
    firstFailure rs = .error e ↔
      ∃ i : Nat, rs[i]? = some (.error e) ∧ ∀ a < i, rs[a]? = some (.ok ()) := by
  induction rs with
  | nil => simp [firstFailure]
  | cons r rest ih =>
    cases r with
    | ok a =>
      rw [firstFailure, ih]
      constructor
      · rintro ⟨i, hi, hbefore⟩
        refine ⟨i + 1, hi, fun a ha => ?_⟩
        cases a with
        | zero => rfl
        | succ a => exact hbefore a (by omega)
      · rintro ⟨i, hi, hbefore⟩
        cases i with
        | zero => simp at hi
        | succ i => exact ⟨i, hi, fun a ha => hbefore (a + 1) (by omega)⟩
    | error e' =>
      rw [firstFailure]
      constructor
      · intro h
        exact ⟨0, by rw [h]; rfl, fun a ha => (nomatch ha)⟩
      · rintro ⟨i, hi, hbefore⟩
        cases i with
        | zero => exact Option.some.inj hi
        | succ i => exact nomatch hbefore 0 (by omega)

/-- What comes behind the units of a block. -/
def parEnd (m : Machine) (rs : List UnitResult) : Process (UnitResult × Machine) :=
  .done (firstFailure rs, { m with forks := m.forks + 1 })

/-- Behind a block nothing more is asked for. -/
theorem parEnd_done (m : Machine) (rs : List UnitResult) :
    ∃ r m', parEnd m rs = .done (r, m') :=
  ⟨_, _, rfl⟩

variable {w : World} {m : Machine} {q : Process (UnitResult × Machine)}
  {K : Except RuntimeError Unit × Machine → Process (UnitResult × Machine)}

/-- Channels are copied one after the other. -/
theorem leads_shareChannels (cs : List (String × ConnectionId)) (hK : K (.ok (), m) = q) :
    Task.Leads w q ((shareChannels cs m).bind K) cs.length := by
  induction cs with
  | nil => exact hK ▸ .here
  | cons c rest ih => exact .step rfl rfl rfl rfl ih

/-- They are copied for each of the units. -/
theorem leads_shareWith (ss : List Stmt) (hK : K (.ok (), m) = q) :
    Task.Leads w q ((shareWith ss m).bind K) (ss.length * m.channels.entries.length) := by
  induction ss with
  | nil => rw [List.length_nil, Nat.zero_mul]; exact hK ▸ .here
  | cons s rest ih =>
    simp only [shareWith, Exec.bind_apply, machine, Process.bind, Process.bind_assoc]
    rw [List.length_cons, Nat.succ_mul]
    exact (leads_shareChannels m.channels.entries rfl).trans ih

/-- A block pauses, copies the channels for its units, has them run, and ends. -/
theorem leads_runUnit_par (n : Nat) (b : Block Stmt) (m : Machine) :
    Task.Leads w (.fork ⟨n, m, b.statements⟩ (parEnd m)) (runUnit (n + 1) (.par b) m)
      (m.copies b + 1) := by
  have hrun : runUnit (n + 1) (.par b) m =
      .perform m (.pause (.statement (.par b))) fun _ =>
        (shareWith b.statements m).bind fun
          | (.ok (), m) => .fork ⟨n, m, b.statements⟩ (parEnd m)
          | (.error e, m) => .done (.error e, m) := by
    simp only [runUnit, Interpreter.runUnit, Interpreter.run, interpreter, Exec.bind_apply, pause, perform,
      fork, Process.bind, Process.bind_assoc]
    congr 1
    funext _
    refine Process.bind_congr (fun _ m => ?_) fun _ _ => rfl
    simp only [Process.bind, Process.fork.injEq, true_and]
    funext rs
    cases hrs : firstFailure rs <;> simp only [join, parEnd, hrs] <;> rfl
  rw [hrun]
  exact .step rfl rfl rfl rfl (leads_shareWith b.statements rfl)

end Exec

namespace Machine

/-- The parallel block as a task of its own. -/
def block (m : Machine) (n : Nat) (b : Block Stmt) (clock : Nat) : Task :=
  .start clock (Exec.runUnit (n + 1) (.par b)) m

/-- The block when its units are about to run. -/
def forked (m : Machine) (n : Nat) (b : Block Stmt) (clock : Nat) : Task :=
  .waiting ⟨n, m, b.statements⟩ (Task.unitsFrom clock ⟨n, m, b.statements⟩ 0 b.statements)
    (Exec.parEnd m)

/-- The unit at place `i` of the block as a task of its own, from the state of the fork. -/
def unitAlone (m : Machine) (n i : Nat) (s : Stmt) (clock : Nat) : Task :=
  .start clock (Exec.runUnit n s) (m.child i)

/-- The unit at place `i` can come to its end with the result `r` when it runs alone. -/
def EndsAlone (m : Machine) (w : World) (n i : Nat) (s : Stmt) (r : UnitResult) : Prop :=
  ∃ ways clock clock' m' w',
    Task.follow ways (m.unitAlone n i s clock) w = some (.finished clock' r m', w')

variable {F : Fragment} {m : Machine} {w w' : World} {b : Block Stmt} {n clock : Nat}
  {ways : List (List Nat)} {t : Task}

/-- A run of a block is on its way to the units, or is a run from their start. -/
theorem follow_block (hrun : Task.follow ways (m.block n b clock) w = some (t, w')) :
    (∃ c p, t = .running c p ∧ (∀ i, Task.turnsOf i ways = []) ∧
      Task.lines ways (m.block n b clock) w = []) ∨
    ∃ ways', (∀ i, Task.turnsOf i ways = Task.turnsOf i ways') ∧
      Task.follow ways' (m.forked n b (clock + (m.copies b + 1))) w = some (t, w') ∧
      Task.lines ways (m.block n b clock) w =
        Task.lines ways' (m.forked n b (clock + (m.copies b + 1))) w := by
  have hleads := Exec.leads_runUnit_par (w := w) n b m
  rcases Task.follow_of_leads hleads hrun with h | ⟨ways', rfl, hrun', hlines⟩
  · exact .inl h
  · have hturns : ∀ i, Task.turnsOf i (List.replicate (m.copies b + 1) [] ++ ways') =
        Task.turnsOf i ways' := fun i => by
      rw [Task.turnsOf, List.filterMap_append, List.filterMap_replicate]
      rfl
    cases ways' with
    | nil =>
      obtain ⟨rfl, -⟩ := Prod.mk.inj (Option.some.inj hrun')
      exact .inl ⟨_, _, rfl, hturns, hlines⟩
    | cons way ways =>
      obtain ⟨t₁, w₁, hstep, hrest⟩ := Task.follow_cons.mp hrun'
      cases way with
      | cons i way => cases hstep
      | nil =>
        obtain ⟨rfl, rfl⟩ := Prod.mk.inj (Option.some.inj hstep)
        exact .inr ⟨ways, hturns, hrest, hlines⟩

/-! ## Blocks of independent units -/

/-- In a run of the block the unit at place `i` stands where its turns lead to when it runs alone, and its
lines are those that it prints alone. When the block has finished the unit has, with its result. -/
def UnitAsAlone (m : Machine) (w : World) (n : Nat) (b : Block Stmt) (results : List UnitResult)
    (clock : Nat) (ways : List (List Nat)) (t : Task) (i : Nat) (s : Stmt) : Prop :=
  ∃ tᵢ wᵢ, Task.follow (Task.turnsOf i ways) (m.unitAlone n i s (clock + (m.copies b + 1))) w =
      some (tᵢ, wᵢ) ∧
    Task.lines (Task.turnsOf i ways) (m.unitAlone n i s (clock + (m.copies b + 1))) w =
      Task.linesOf i (Task.lines ways (m.block n b clock) w) ∧
    (∀ f units k, t = .waiting f units k → units[i]? = some tᵢ) ∧
    ∀ c r m', t = .finished c r m' → ∃ cᵢ rᵢ mᵢ, tᵢ = .finished cᵢ rᵢ mᵢ ∧ results[i]? = some rᵢ

/-- What the run of a block under a schedule has to do with the runs of its units alone, if `results` are
the results of these. -/
structure RunsAsAlone (m : Machine) (w : World) (n : Nat) (b : Block Stmt)
    (results : List UnitResult) (clock : Nat) (ways : List (List Nat)) (t : Task) (w' : World) :
    Prop where
  /-- The output is the lines that were printed. -/
  output : w'.output = w.output.printed ((Task.lines ways (m.block n b clock) w).map Prod.snd)
  /-- Each of them was printed by a unit. -/
  printed : ∀ l ∈ Task.lines ways (m.block n b clock) w,
    ∃ i way, l.1 = i :: way ∧ i < b.statements.length
  unit : ∀ (i : Nat) s, b.statements[i]? = some s → m.UnitAsAlone w n b results clock ways t i s
  /-- The block succeeds if all units do, and fails as the first unit in the order of the source that
  fails. The machine has counted the block, and is otherwise as it was. -/
  ending : ∀ c r m', t = .finished c r m' →
    (r = .ok () ↔ ∀ rᵢ ∈ results, rᵢ = .ok ()) ∧
    (∀ e, r = .error e ↔
      ∃ i : Nat, results[i]? = some (.error e) ∧ ∀ a < i, results[a]? = some (.ok ())) ∧
    m' = { m with forks := m.forks + 1 }

/-- Independent units keep to themselves, in the block and alone. -/
theorem Independent.exists_alike (h : m.Independent b.statements) (hrooted : m.Rooted w.heap)
    (hsink : w.output.limit? = none) (n : Nat) :
    ∃ F : Fragment, ¬ F.shares ∧ (∀ clock, Task.Alike F w w m.unit (m.block n b clock)) ∧
      ∀ (i : Nat) s, b.statements[i]? = some s → ∀ clock,
        Task.Alike F w w ((m.forks, i) :: m.unit) (m.unitAlone n i s clock) := by
  obtain ⟨K, hclosed, hknown⟩ := hrooted
  have hfits := h.fits hknown
  have hpar : h.fragment.stmt (.par b) := h.stmt_par b.line
  refine ⟨h.fragment, not_false, fun clock => ?_, fun i s hs clock => ?_⟩
  · exact .running (Exec.confined_anyEnd hpar hfits) (.refl _ hclosed hsink)
  · have hstmt : h.fragment.stmt s := h.fragment.part hpar (List.mem_of_getElem? hs)
    exact .running (Exec.confined_anyEnd hstmt (hfits.child i)) (.refl _ hclosed hsink)

section Units

variable (hF : ¬ F.shares) (hunits : ∀ (i : Nat) s, b.statements[i]? = some s → ∀ clock,
  Task.Alike F w w ((m.forks, i) :: m.unit) (m.unitAlone n i s clock))
include hF hunits

/-! ### Alone -/

/-- A unit that can come to an end has so many steps to go, whatever the schedule. -/
theorem alone_of_endsAlone {i : Nat} {s : Stmt} {r : UnitResult} (hs : b.statements[i]? = some s)
    (hr : m.EndsAlone w n i s r) :
    ∃ N, Process.Alone w (Exec.runUnit n s (m.child i)) N r := by
  obtain ⟨ways, clock, clock', m', w', hrun⟩ := hr
  cases Task.alone_of_follow hF (hunits i s hs clock) hrun with
  | running h => exact ⟨_, h⟩

/-- A unit has one result. -/
theorem endsAlone_unique {i : Nat} {s : Stmt} {r r' : UnitResult} (hs : b.statements[i]? = some s)
    (hr : m.EndsAlone w n i s r) (hr' : m.EndsAlone w n i s r') : r = r' := by
  obtain ⟨N, halone⟩ := alone_of_endsAlone hF hunits hs hr
  obtain ⟨ways, clock, clock', m', w', hrun⟩ := hr'
  obtain ⟨_, -, hend⟩ := (Task.Alone.running halone).follow hF (hunits i s hs clock) hrun
  cases hend
  rfl

/-- The results of the units, in order. -/
theorem exists_results (hends : ∀ (i : Nat) s, b.statements[i]? = some s →
      ∃ r, m.EndsAlone w n i s r) :
    ∃ results : List UnitResult, results.length = b.statements.length ∧
      ∀ (i : Nat) s r, b.statements[i]? = some s →
        (m.EndsAlone w n i s r ↔ results[i]? = some r) := by
  choose result hresult using fun i : Fin b.statements.length =>
    hends i _ (List.getElem?_eq_getElem i.isLt)
  refine ⟨List.ofFn result, List.length_ofFn, fun i s r hs => ?_⟩
  obtain ⟨hi, rfl⟩ := List.getElem?_eq_some_iff.mp hs
  rw [List.getElem?_ofFn, dif_pos hi, Option.some.injEq]
  constructor
  · exact endsAlone_unique hF hunits hs (hresult ⟨i, hi⟩)
  · rintro rfl
    exact hresult ⟨i, hi⟩

/-- A block of units that end alone has so many steps to go, to the first failure of their results. -/
theorem alone_block {results : List UnitResult} (hlength : results.length = b.statements.length)
    (hresults : ∀ (i : Nat) s r, b.statements[i]? = some s →
      (m.EndsAlone w n i s r ↔ results[i]? = some r)) :
    ∃ bound, ∀ clock, (m.block n b clock).Alone w bound (Exec.firstFailure results) := by
  have hsteps : ∀ i, ∃ N, ∀ s r, b.statements[i]? = some s → results[i]? = some r →
      Process.Alone w (Exec.runUnit n s (m.child i)) N r := fun i => by
    by_cases hi : i < b.statements.length
    · have hs := List.getElem?_eq_getElem hi
      have hr := List.getElem?_eq_getElem (hlength.symm ▸ hi)
      obtain ⟨N, halone⟩ := alone_of_endsAlone hF hunits hs ((hresults i _ _ hs).mpr hr)
      refine ⟨N, fun s r hs' hr' => ?_⟩
      obtain rfl := Option.some.inj (hs.symm.trans hs')
      exact Option.some.inj (hr.symm.trans hr') ▸ halone
    · exact ⟨0, fun s r hs _ => absurd (List.getElem?_eq_some_iff.mp hs).1 hi⟩
  choose ns hns using hsteps
  obtain ⟨bound, hblock⟩ : ∃ bound,
      Process.Alone w (Exec.runUnit (n + 1) (.par b) m) bound (Exec.firstFailure results) :=
    ⟨_, (Exec.leads_runUnit_par n b m).alone (.fork hlength hns .done)⟩
  exact ⟨bound, fun clock => .running hblock⟩

/-! ### In the block -/

/-- The units of a block that has started them, beside their runs alone. -/
theorem follow_forked (hrun : Task.follow ways (m.forked n b clock) w = some (t, w')) :
    ∃ units, Task.Behind ⟨n, m, b.statements⟩ (Exec.parEnd m) units t ∧
      ∀ (i : Nat) s, b.statements[i]? = some s → ∃ tᵢ wᵢ, units[i]? = some tᵢ ∧
        Task.follow (Task.turnsOf i ways) (m.unitAlone n i s clock) w = some (tᵢ, wᵢ) ∧
        Task.lines (Task.turnsOf i ways) (m.unitAlone n i s clock) w =
          Task.linesOf i (Task.lines ways (m.forked n b clock) w) := by
  have hplace : ∀ (i : Nat), (Task.unitsFrom clock ⟨n, m, b.statements⟩ 0 b.statements)[i]? =
      b.statements[i]?.map fun s => m.unitAlone n i s clock := fun i => by
    rw [Task.getElem?_unitsFrom, Nat.zero_add]
    rfl
  have halike : ∀ (i : Nat) t,
      (Task.unitsFrom clock ⟨n, m, b.statements⟩ 0 b.statements)[i]? = some t →
        Task.Alike F w w ((m.forks, i) :: m.unit) t := fun i t ht => by
    rw [hplace, Option.map_eq_some_iff] at ht
    obtain ⟨s, hs, rfl⟩ := ht
    exact hunits i s hs clock
  obtain ⟨units, hbehind, -, hunit⟩ :=
    Task.follow_waiting hF (Exec.parEnd_done m) (fun _ => w) halike hrun
  refine ⟨units, hbehind, fun i s hs => hunit i _ ?_⟩
  rw [hplace, hs]
  rfl

/-- The result of a unit in the block is the one it has alone. -/
theorem unitAsAlone_of_follow {results : List UnitResult}
    (hresults : ∀ (i : Nat) s r, b.statements[i]? = some s →
      (m.EndsAlone w n i s r ↔ results[i]? = some r))
    (hrun : Task.follow ways (m.block n b clock) w = some (t, w')) {i : Nat} {s : Stmt}
    (hs : b.statements[i]? = some s) : m.UnitAsAlone w n b results clock ways t i s := by
  rcases follow_block hrun with ⟨c, p, rfl, hturns, hlines⟩ | ⟨ways', hturns, hrun', hlines⟩
  · refine ⟨_, w, by rw [hturns]; rfl, by rw [hturns, hlines]; rfl, ?_, ?_⟩
    · exact fun _ _ _ h => nomatch h
    · exact fun _ _ _ h => nomatch h
  · obtain ⟨units, hbehind, hunit⟩ := follow_forked hF hunits hrun'
    obtain ⟨tᵢ, wᵢ, htᵢ, hfollow, hlinesᵢ⟩ := hunit i s hs
    rw [← hturns] at hfollow hlinesᵢ
    refine ⟨tᵢ, wᵢ, hfollow, hlinesᵢ.trans (by rw [hlines]), ?_, ?_⟩
    · rintro f units' k rfl
      cases hbehind
      exact htᵢ
    · rintro c r m' rfl
      cases hbehind with
      | ended hrs _ =>
        obtain ⟨cᵢ, rᵢ, mᵢ, rfl, -⟩ := (Task.results?_eq_some hrs).2 i tᵢ htᵢ
        have hends : m.EndsAlone w n i s rᵢ := ⟨_, _, _, _, _, hfollow⟩
        exact ⟨cᵢ, rᵢ, mᵢ, rfl, (hresults i s rᵢ hs).mp hends⟩

/-- A block that has finished has counted itself, and has changed nothing else in the machine. -/
theorem machine_of_follow {c : Nat} {r : UnitResult} {m' : Machine}
    (hrun : Task.follow ways (m.block n b clock) w = some (.finished c r m', w')) :
    m' = { m with forks := m.forks + 1 } := by
  rcases follow_block hrun with ⟨_, _, h, -⟩ | ⟨ways', -, hrun', -⟩
  · cases h
  · obtain ⟨units, hbehind, -⟩ := follow_forked hF hunits hrun'
    cases hbehind with
    | ended _ hk =>
      rw [Exec.parEnd, Process.done.injEq, Prod.mk.injEq] at hk
      exact hk.2.symm

end Units

/-- Only units of the block print lines. -/
theorem mem_lines_block {l : List Nat × String}
    (hrun : Task.follow ways (m.block n b clock) w = some (t, w'))
    (hl : l ∈ Task.lines ways (m.block n b clock) w) :
    ∃ i way, l.1 = i :: way ∧ i < b.statements.length := by
  rcases follow_block hrun with ⟨_, _, -, -, hlines⟩ | ⟨ways', -, -, hlines⟩
  · rw [hlines] at hl
    cases hl
  · rw [hlines] at hl
    simpa using Task.mem_lines_waiting (Exec.parEnd_done m) hl

/-! ## Main result -/

/-- **Independent units run as they run alone.** Let the units of a parallel block be independent, and
let each, from the state of the fork, come to an end under some schedule when it runs alone; the machine
is rooted, as all are that a run comes to (`Task.rooted_of_reaches`), and the sink has room for
everything. Then each unit has one result, whatever the schedule. Every run of the block is bounded and
can go on until it has finished, and in all of them the units run as they run alone. -/
theorem units_run_as_alone (hindependent : m.Independent b.statements) (hrooted : m.Rooted w.heap)
    (hsink : w.output.limit? = none)
    (hends : ∀ (i : Nat) s, b.statements[i]? = some s → ∃ r, m.EndsAlone w n i s r) :
    ∃ results : List UnitResult, results.length = b.statements.length ∧
      (∀ (i : Nat) s r, b.statements[i]? = some s →
        (m.EndsAlone w n i s r ↔ results[i]? = some r)) ∧
      ∃ bound, ∀ clock ways t w', Task.follow ways (m.block n b clock) w = some (t, w') →
        ways.length ≤ bound ∧
        ((∃ c r m', t = .finished c r m') ∨ ∃ way t' w'', Task.stepAt w' way t = some (t', w'')) ∧
        m.RunsAsAlone w n b results clock ways t w' := by
  obtain ⟨F, hF, hblock, hunits⟩ := hindependent.exists_alike hrooted hsink n
  obtain ⟨results, hlength, hresults⟩ := exists_results hF hunits hends
  obtain ⟨bound, halone⟩ := alone_block hF hunits hlength hresults
  refine ⟨results, hlength, hresults, bound, fun clock ways t w' hrun => ?_⟩
  obtain ⟨left, hbound, hleft⟩ := (halone clock).follow hF (hblock clock) hrun
  refine ⟨by omega, ?_, (hblock clock).output_eq hF hrun, fun l hl => mem_lines_block hrun hl,
    fun i s hs => unitAsAlone_of_follow hF hunits hresults hrun hs, ?_⟩
  · exact hleft.progress.imp_left fun ⟨c, m', h⟩ => ⟨c, _, m', h⟩
  · rintro c r m' rfl
    cases hleft
    exact ⟨Exec.firstFailure_eq_ok_iff, fun e => Exec.firstFailure_eq_error_iff,
      machine_of_follow hF hunits hrun⟩

/-! ## An instance -/

/-- A unit that some schedule leads to its end can come to it. -/
theorem exists_endsAlone {i : Nat} {s : Stmt}
    (h : ((Task.follow ways (m.unitAlone n i s clock) w).any fun r => r.1.isFinished) = true) :
    ∃ r, m.EndsAlone w n i s r := by
  obtain ⟨⟨t, w'⟩, hrun, hfinished⟩ := (Option.any_eq_true _ _).mp h
  cases t with
  | finished clock' r m' => exact ⟨r, ways, clock, clock', m', w', hrun⟩
  | running => cases hfinished
  | waiting => cases hfinished

end Machine

/-- A machine with an array and a function that prints. -/
def sharingMachine : Machine :=
  { Machine.initial with
    scopes := Scopes.new.declare "a" (.array ⟨[], 0⟩)
    functions := NameMap.empty.insert "say"
      ⟨⟨1, "say", [⟨1, "v", .array (.named "string"), none⟩], .named "void",
        ⟨1, [.expr 2 (.call 2 "print" [.ident 2 "v"])]⟩⟩, 1⟩ }

/-- The world in which the array is. -/
def sharingWorld : World :=
  ⟨.deserted, ⟨[([], #[#[.text "x"]])]⟩⟩

/-- Units that read the array and make others: one that prints, one that fails, and one that has units of
its own, the second of which fails too. -/
def sharingUnits : Block Stmt :=
  ⟨3, [
    .expr 4 (.call 4 "say" [.binary 4 .add (.ident 4 "a") (.array 4 [.text 4 "y"])]),
    .expr 5 (.call 5 "missing" []),
    .par ⟨6, [
      .expr 7 (.call 7 "print" [.binary 7 .eq (.ident 7 "a") (.array 7 [.text 7 "x"])]),
      .expr 8 (.call 8 "absent" [])]⟩]⟩

/-- Schedules under which they come to their ends alone. -/
def sharingWays : List (List (List Nat)) :=
  [List.replicate 10 [], [[], []],
    [[], []] ++ List.replicate 6 [0] ++ List.replicate 2 [1] ++ [[], []]]

/-- Units that share an array and only read it, two of which fail: under every schedule each comes to what
it comes to alone. -/
theorem units_run_as_alone_sharing :
    sharingMachine.Independent sharingUnits.statements ∧ sharingMachine.Rooted sharingWorld.heap ∧
    sharingWorld.output.limit? = none ∧
    (∀ (i : Nat) s, sharingUnits.statements[i]? = some s →
      ∃ r, sharingMachine.EndsAlone sharingWorld 12 i s r) ∧
    ∃ results : List UnitResult, results.length = 3 ∧
      (∀ (i : Nat) s r, sharingUnits.statements[i]? = some s →
        (sharingMachine.EndsAlone sharingWorld 12 i s r ↔ results[i]? = some r)) ∧
      ∃ bound, ∀ clock ways t w',
        Task.follow ways (sharingMachine.block 12 sharingUnits clock) sharingWorld = some (t, w') →
        ways.length ≤ bound ∧
        ((∃ c r m', t = .finished c r m') ∨ ∃ way t' w'', Task.stepAt w' way t = some (t', w'')) ∧
        sharingMachine.RunsAsAlone sharingWorld 12 sharingUnits results clock ways t w' := by
  have hindependent : sharingMachine.Independent sharingUnits.statements :=
    Machine.independent_of_names ["say", "print", "missing", "absent"]
      (by decide +kernel) (by decide +kernel) (by decide +kernel) (by decide +kernel)
  have hrooted : sharingMachine.Rooted sharingWorld.heap := by
    refine ⟨{⟨[], 0⟩}, ?_, ?_⟩
    · rintro _ rfl
      exact ⟨#[.text "x"], rfl, by simp⟩
    · exact Scopes.Each.declare (Scopes.each_empty_cons.mpr fun _ h => nomatch h) (by simp)
  have hends : ∀ (i : Nat) s, sharingUnits.statements[i]? = some s →
      ∃ r, sharingMachine.EndsAlone sharingWorld 12 i s r := fun i s hs => by
    have hall : ∀ p ∈ sharingUnits.statements.zipIdx, ∃ ways ∈ sharingWays,
        ((Task.follow ways (sharingMachine.unitAlone 12 p.2 p.1 0) sharingWorld).any
          fun r => r.1.isFinished) = true := by
      decide +kernel
    obtain ⟨ways, -, hways⟩ := hall (s, i) (List.mk_mem_zipIdx_iff_getElem?.mpr hs)
    exact Machine.exists_endsAlone hways
  exact ⟨hindependent, hrooted, rfl, hends, Machine.units_run_as_alone hindependent hrooted rfl hends⟩

end ParLang
