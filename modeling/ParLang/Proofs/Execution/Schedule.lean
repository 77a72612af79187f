import ParLang.Proofs.Execution.Runs

/-!
# Runs of the units alone

Where nothing happens around the program, a schedule is a list of ways, each to the unit that takes the
next turn. `Task.follow` is the run under such a schedule and `Task.lines` what it prints, line by line,
with the way to the unit that prints it. The turns of one unit and of the units below it are the part of
the schedule that leads into it (`Task.turnsOf`), and the lines that these print are its lines
(`Task.linesOf`).

The other lemmas describe the units that a task waits for by their places.
-/

namespace ParLang

/-- The line that an effect prints. -/
def Effect.line? : Effect → Option String
  | .emit line => some line
  | _ => none

/-- The sink behind some lines. -/
def Sink.printed (s : Sink) (lines : List String) : Sink :=
  lines.foldl (fun s line => (s.writeLine line).2) s

/-- Lines that are printed one after the other add up. -/
theorem Sink.printed_append (s : Sink) (lines lines' : List String) :
    s.printed (lines ++ lines') = (s.printed lines).printed lines' :=
  List.foldl_append

namespace Task

variable {t t' : Task} {w w' : World}

/-- A unit that asks for an effect gets the answer of the world, when there is one. -/
theorem stepAt_perform {clock : Nat} {m : Machine} {e : Effect}
    {k : e.Reply → Process (UnitResult × Machine)} (h : w.canAnswer m.unit e = true) :
    stepAt w [] (.running clock (.perform m e k)) =
      some (.running (clock + e.duration) (k (w.answer m.unit e).1), (w.answer m.unit e).2) :=
  if_pos h

/-- The step of a unit that asks for an effect is the answer of the world. -/
theorem of_stepProcess_perform {clock : Nat} {m : Machine} {e : Effect}
    {k : e.Reply → Process (UnitResult × Machine)}
    (h : stepProcess w clock (.perform m e k) = some (t', w')) :
    w.canAnswer m.unit e = true ∧ t' = .running (clock + e.duration) (k (w.answer m.unit e).1) ∧
      w' = (w.answer m.unit e).2 := by
  rw [stepProcess] at h
  split at h
  · next hcan =>
    obtain ⟨rfl, rfl⟩ := Prod.mk.inj (Option.some.inj h)
    exact ⟨hcan, rfl, rfl⟩
  · cases h

/-! ## Schedules -/

/-- Lets the units at the ends of the ways do one step each, in order. -/
def follow : List (List Nat) → Task → World → Option (Task × World)
  | [], t, w => some (t, w)
  | way :: ways, t, w => (stepAt w way t).bind fun (t', w') => follow ways t' w'

/-- The first turn, and the others from where it leads. -/
theorem follow_cons {way : List Nat} {ways : List (List Nat)} :
    follow (way :: ways) t w = some (t', w') ↔
      ∃ t₁ w₁, stepAt w way t = some (t₁, w₁) ∧ follow ways t₁ w₁ = some (t', w') := by
  rw [follow, Option.bind_eq_some_iff, Prod.exists]

/-- A schedule of units alone is a run. -/
theorem reaches_of_follow {ways : List (List Nat)} (h : follow ways t w = some (t', w')) :
    Reaches t w t' w' := by
  induction ways generalizing t w with
  | nil =>
    obtain ⟨rfl, rfl⟩ := Prod.mk.inj (Option.some.inj h)
    exact .start
  | cons way ways ih =>
    obtain ⟨t₁, w₁, hstep, hrest⟩ := follow_cons.mp h
    exact (Reaches.start.turn (.unit way) hstep).trans (ih hrest)

/-- The line that the unit at the end of the way prints next. -/
def lineAt? (way : List Nat) (t : Task) : Option String :=
  (effectAt? way t).bind Effect.line?

/-- The lines that are printed under a schedule, each with the way to the unit that prints it. -/
def lines : List (List Nat) → Task → World → List (List Nat × String)
  | [], _, _ => []
  | way :: ways, t, w =>
    match stepAt w way t with
    | some (t', w') => (lineAt? way t).toList.map (way, ·) ++ lines ways t' w'
    | none => []

/-- The lines of a schedule are those of its first turn and then the others. -/
theorem lines_cons {way : List Nat} {ways : List (List Nat)}
    (h : stepAt w way t = some (t', w')) :
    lines (way :: ways) t w = (lineAt? way t).toList.map (way, ·) ++ lines ways t' w' := by
  rw [lines, h]

/-- The rest of a way that leads into the unit at place `i`. -/
def wayInto? (i : Nat) : List Nat → Option (List Nat)
  | j :: way => if j = i then some way else none
  | [] => none

/-- The turns of the unit at place `i` and of the units below it. -/
def turnsOf (i : Nat) (ways : List (List Nat)) : List (List Nat) :=
  ways.filterMap (wayInto? i)

/-- The lines that the unit at place `i` prints, and the units below it. -/
def linesOf (i : Nat) (ls : List (List Nat × String)) : List (List Nat × String) :=
  ls.filterMap fun (way, line) => (wayInto? i way).map (·, line)

/-- A turn of the block itself is nobody's turn below it. -/
@[simp] theorem turnsOf_own (i : Nat) (ways : List (List Nat)) :
    turnsOf i ([] :: ways) = turnsOf i ways := rfl

/-- A turn that leads through a unit is a turn of that unit, with the rest of the way. -/
@[simp] theorem turnsOf_self (i : Nat) (way : List Nat) (ways : List (List Nat)) :
    turnsOf i ((i :: way) :: ways) = way :: turnsOf i ways := by
  simp [turnsOf, wayInto?]

/-- A turn that leads through another unit is not one of this unit. -/
theorem turnsOf_of_ne {i j : Nat} (h : j ≠ i) (way : List Nat) (ways : List (List Nat)) :
    turnsOf i ((j :: way) :: ways) = turnsOf i ways := by
  simp [turnsOf, wayInto?, h]

/-- The lines of a unit are counted part by part. -/
@[simp] theorem linesOf_append (i : Nat) (ls ls' : List (List Nat × String)) :
    linesOf i (ls ++ ls') = linesOf i ls ++ linesOf i ls' :=
  List.filterMap_append

/-- A line from below a unit is one of the unit. -/
@[simp] theorem linesOf_self (i : Nat) (way : List Nat) (line? : Option String) :
    linesOf i (line?.toList.map (i :: way, ·)) = line?.toList.map (way, ·) := by
  cases line? <;> simp [linesOf, wayInto?]

/-- A line from below another unit is not. -/
theorem linesOf_of_ne {i j : Nat} (h : j ≠ i) (way : List Nat) (line? : Option String) :
    linesOf i (line?.toList.map (j :: way, ·)) = [] := by
  cases line? <;> simp [linesOf, wayInto?, h]

/-! ## Units by their places -/

/-- An element of a list in which the element at one place was replaced. -/
theorem eq_or_of_getElem?_set {ts : List Task} {i j : Nat} {u : Task}
    (h : (ts.set i t)[j]? = some u) : i = j ∧ t = u ∨ i ≠ j ∧ ts[j]? = some u := by
  rw [List.getElem?_set] at h
  split at h
  · next heq =>
    split at h
    · exact .inl ⟨heq, Option.some.inj h⟩
    · cases h
  · next hne => exact .inr ⟨hne, h⟩

/-- A step of a unit that a task waits for. -/
theorem stepAt_cons_eq_some {i : Nat} {way : List Nat} {f : Fork} {units : List Task}
    {k : List UnitResult → Process (UnitResult × Machine)} :
    stepAt w (i :: way) (.waiting f units k) = some (t', w') ↔
      ∃ u u', units[i]? = some u ∧ stepAt w way u = some (u', w') ∧
        t' = .waiting f (units.set i u') k :=
  actAt_cons_eq_some

/-- The line that is about to come from a block comes from the unit that the way leads to. -/
theorem lineAt?_cons {i : Nat} (way : List Nat) {f : Fork} {units : List Task}
    {k : List UnitResult → Process (UnitResult × Machine)} {u : Task} (hu : units[i]? = some u) :
    lineAt? (i :: way) (.waiting f units k) = lineAt? way u := by
  rw [lineAt?, effectAt?, hu]
  rfl

/-- The unit at a place of a block starts with the statement at that place and a machine of its own. -/
theorem getElem?_unitsFrom (clock : Nat) (f : Fork) (i j : Nat) (units : List Stmt) :
    (unitsFrom clock f i units)[j]? =
      units[j]?.map fun s => .start clock (Exec.runUnit f.budget s) (f.machine.child (i + j)) := by
  induction units generalizing i j with
  | nil => simp [unitsFrom]
  | cons s rest ih =>
    cases j with
    | zero => simp [unitsFrom]
    | succ j => simp [unitsFrom, ih, Nat.add_right_comm, Nat.add_assoc]

/-- A block has as many units as statements. -/
@[simp] theorem length_unitsFrom (clock : Nat) (f : Fork) (i : Nat) (units : List Stmt) :
    (unitsFrom clock f i units).length = units.length := by
  induction units generalizing i with
  | nil => rfl
  | cons s rest ih => simp [unitsFrom, ih]

/-- The units have all finished when there are results, and these are theirs. -/
theorem results?_eq_some {ts : List Task} {clock : Nat} {rs : List UnitResult}
    (h : results? ts = some (clock, rs)) :
    rs.length = ts.length ∧
      ∀ (i : Nat) t, ts[i]? = some t → ∃ c r m, t = .finished c r m ∧ rs[i]? = some r := by
  induction ts generalizing clock rs with
  | nil =>
    simp only [results?, Option.some.injEq, Prod.mk.injEq] at h
    simp [← h.2]
  | cons t rest ih =>
    cases t with
    | running c p => simp [results?] at h
    | waiting f us c => simp [results?] at h
    | finished c r m =>
      simp only [results?, Option.map_eq_some_iff, Prod.mk.injEq, Prod.exists] at h
      obtain ⟨latest, rs', hrest, -, rfl⟩ := h
      obtain ⟨hlength, hfinished⟩ := ih hrest
      refine ⟨by simp [hlength], fun i t ht => ?_⟩
      cases i with
      | zero => exact ⟨c, r, m, (Option.some.inj ht).symm, rfl⟩
      | succ i => exact hfinished i t ht

/-- Where there are no results yet, some unit has not finished. -/
theorem exists_of_results?_eq_none {ts : List Task} (h : results? ts = none) :
    ∃ (i : Nat) (t : Task), ts[i]? = some t ∧ ∀ c r m, t ≠ .finished c r m := by
  induction ts with
  | nil => simp [results?] at h
  | cons t rest ih =>
    cases t with
    | running c p => exact ⟨0, .running c p, rfl, by simp⟩
    | waiting f us c => exact ⟨0, .waiting f us c, rfl, by simp⟩
    | finished c r m =>
      simp only [results?, Option.map_eq_none_iff] at h
      obtain ⟨i, t, ht, hne⟩ := ih h
      exact ⟨i + 1, t, ht, hne⟩

end Task

end ParLang
