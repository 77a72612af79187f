import ParLang.Proofs.Resolution.Traced

/-!
# Channels and the places of a program

What stands at a place is read off the program (`Program.construct?`), so it is known of a declaration whether
it opens a channel, and of which name (`Program.channelOf?`). A program assigns to no channel if the
checker resolves no target of an assignment to such a declaration (`Program.ChannelsUnassigned`).

`Stmt.Placed` and `Closure.Placed` say that a statement or a function stands where it is thought to stand
and assigns to no channel. Both come apart along the statement.
-/

namespace ParLang

variable {p : Program} {S S' : Static} {q : Site} {s : Stmt}

/-! ## What stands at a place -/

/-- What stands at a place: a statement, or the statements of a block. -/
inductive Construct where
  | stmt (s : Stmt)
  | block (ss : List Stmt)

/-- Part number `i` of a statement. A function has its parameters as part 0, the other statements in
which a block is not all there is begin with part 0, too. -/
def Stmt.part? (i : Nat) : Stmt → Option Construct
  | .function f => if i = 1 then some (.block f.body.statements) else none
  | .branch _ _ yes no? =>
    if i = 0 then some (.block yes.statements) else no?.map fun no => .block no.statements
  | .while _ _ body | .seq body | .block body => some (.block body.statements)
  | .for _ init _ _ body => some (if i = 0 then .stmt init else .block body.statements)
  | .par units => units.statements[i]?.map .stmt
  | _ => none

/-- Part number `i` of what stands at a place. -/
def Construct.part? (i : Nat) : Construct → Option Construct
  | .stmt s => s.part? i
  | .block ss => ss[i]?.map .stmt

namespace Program

/-- What stands at the place. -/
def construct? (p : Program) : Site → Option Construct
  | [] => some (.block p.statements)
  | i :: q => (p.construct? q).bind (Construct.part? i)

/-- The name of the channel that the declaration opens, if it opens one. -/
def channelOf? (p : Program) (d : Declaration) : Option String :=
  match p.construct? d.place with
  | some (.stmt (.client ch)) => some ch.name
  | _ => none

/-- The name of the channel that the checker resolves the variable to, if it does. -/
def channelAt? (p : Program) (S : Static) (x : String) : Option String :=
  (S.resolve? x).bind p.channelOf?

end Program

/-! ## Assignments -/

/-- The variable that is assigned to, with what is known there. -/
def Assignment.targets (S : Static) (a : Assignment) : List (Static × String) :=
  match a.target with
  | .variable _ x => [(S, x)]
  | .cell _ _ => []

mutual

/-- The variables that are assigned to anywhere in a statement at the place. -/
def Stmt.targets (S : Static) (q : Site) : Stmt → List (Static × String)
  | .assign a => a.targets S
  | .function f =>
    targetsOf ((S.inFunction f q).withParams q 0 f.params) (1 :: q) 0 f.body.statements
  | .branch _ _ yes none => targetsOf S.opened (0 :: q) 0 yes.statements
  | .branch _ _ yes (some no) =>
    targetsOf S.opened (0 :: q) 0 yes.statements ++ targetsOf S.opened (1 :: q) 0 no.statements
  | .while _ _ body => targetsOf S.inLoop.opened (0 :: q) 0 body.statements
  | .for _ init _ update body =>
    init.targets S.opened (0 :: q) ++ (update.targets (S.opened.after (0 :: q) init) ++
      targetsOf (S.opened.after (0 :: q) init).inRound (1 :: q) 0 body.statements)
  | .seq body | .block body => targetsOf S.opened (0 :: q) 0 body.statements
  | .par units => targetsOfUnits S q 0 units.statements
  | _ => []

/-- Those of statements in order, from number `i` on. -/
def targetsOf (S : Static) (q : Site) (i : Nat) : List Stmt → List (Static × String)
  | [] => []
  | s :: rest => s.targets S (i :: q) ++ targetsOf (S.after (i :: q) s) q (i + 1) rest

/-- Those of the units of a parallel block, from number `i` on. -/
def targetsOfUnits (S : Static) (q : Site) (i : Nat) : List Stmt → List (Static × String)
  | [] => []
  | s :: rest => s.targets S.inUnit (i :: q) ++ targetsOfUnits S q (i + 1) rest

end

namespace Program

/-- None of the variables is a channel. -/
def Spares (p : Program) (targets : List (Static × String)) : Prop :=
  ∀ t ∈ targets, p.channelAt? t.1 t.2 = none

/-- Only finitely many assignments are made. -/
instance (p : Program) (targets : List (Static × String)) : Decidable (p.Spares targets) :=
  inferInstanceAs (Decidable (∀ t ∈ targets, _ = _))

/-- No assignment is to a variable that the checker resolves to a channel. -/
def ChannelsUnassigned (p : Program) : Prop :=
  p.Spares (targetsOf .initial [] 0 p.statements)

/-- So it can be decided of a program that it assigns to no channel's name. -/
instance (p : Program) : Decidable p.ChannelsUnassigned :=
  inferInstanceAs (Decidable (p.Spares _))

/-- Two groups of assignments spare the channels if each does. -/
theorem spares_append {ts ts' : List (Static × String)} :
    p.Spares (ts ++ ts') ↔ p.Spares ts ∧ p.Spares ts' :=
  List.forall_mem_append

end Program

/-! ## Pieces of program where they stand -/

/-- The statement stands at the place, and assigns to no channel. -/
structure Stmt.Placed (p : Program) (S : Static) (q : Site) (s : Stmt) : Prop where
  stands : p.construct? q = some (.stmt s)
  spares : p.Spares (s.targets S q)

/-- The statements stand at the place from number `i` on, and assign to no channel. -/
structure PlacedAll (p : Program) (S : Static) (q : Site) (i : Nat) (ss : List Stmt) : Prop where
  stands : ∃ all, p.construct? q = some (.block all) ∧ all.drop i = ss
  spares : p.Spares (targetsOf S q i ss)

/-- The function stands at its place, and its body assigns to no channel. -/
structure Closure.Placed (p : Program) (cl : Closure) : Prop where
  params : p.construct? (0 :: cl.place) = none
  body : PlacedAll p cl.body (1 :: cl.place) 0 cl.definition.body.statements

/-- The functions that are seen at a place are placed, and so are those that are seen where they are
defined. -/
inductive Static.Placed (p : Program) : Static → Prop where
  | intro {S : Static} (h : ∀ g cl, S.functions.find? g = some cl → cl.Placed p)
      (hstatic : ∀ g cl, S.functions.find? g = some cl → Placed p cl.static) : Placed p S

/-- What stands below a place is a part of what stands there. -/
theorem Program.construct?_cons {i : Nat} {c : Construct} (h : p.construct? q = some c) :
    p.construct? (i :: q) = c.part? i := by
  rw [construct?, h, Option.bind_some]

/-- A declaration at a place without a `c_channel` opens no channel. -/
theorem Program.channelOf?_eq_none {d : Declaration}
    (h : ∀ ch, p.construct? d.place ≠ some (.stmt (.client ch))) : p.channelOf? d = none := by
  rw [channelOf?]
  split
  · next ch hch => exact absurd hch (h ch)
  · rfl

/-- The statements of a part stand at it. -/
theorem PlacedAll.of_part {i : Nat} {c : Construct} {ss : List Stmt} (h : p.construct? q = some c)
    (hpart : c.part? i = some (.block ss)) (hspares : p.Spares (targetsOf S (i :: q) 0 ss)) :
    PlacedAll p S (i :: q) 0 ss :=
  ⟨⟨ss, by rw [Program.construct?_cons h, hpart], List.drop_zero⟩, hspares⟩

/-- The statements of a program stand at the outermost places, and none of them assigns to the name of a
channel if the program does not. -/
theorem PlacedAll.program (h : p.ChannelsUnassigned) : PlacedAll p .initial [] 0 p.statements :=
  ⟨⟨p.statements, rfl, List.drop_zero⟩, h⟩

/-- Statements come apart into the first one and the others behind it. -/
theorem PlacedAll.cons {i : Nat} {rest : List Stmt} (h : PlacedAll p S q i (s :: rest)) :
    s.Placed p S (i :: q) ∧ PlacedAll p (S.after (i :: q) s) q (i + 1) rest := by
  obtain ⟨⟨all, hall, hdrop⟩, hspares⟩ := h
  rw [targetsOf, Program.spares_append] at hspares
  have hs : all[i]? = some s := by
    rw [← List.head?_drop, hdrop]
    rfl
  have hrest : all.drop (i + 1) = rest := by
    rw [← List.tail_drop, hdrop]
    rfl
  have hstands : p.construct? (i :: q) = some (.stmt s) := by
    rw [Program.construct?_cons hall, Construct.part?, hs, Option.map_some]
  exact ⟨⟨hstands, hspares.1⟩, ⟨all, hall, hrest⟩, hspares.2⟩

namespace Static.Placed

/-- Functions that are in sight stand at places of the program, with scopes that do. -/
theorem closure {g : String} {cl : Closure} (h : S.Placed p) (hg : S.functions.find? g = some cl) :
    cl.Placed p ∧ cl.static.Placed p := by
  cases h with
  | intro h hstatic => exact ⟨h g cl hg, hstatic g cl hg⟩

/-- Nothing is in sight at the start. -/
theorem initial : Static.initial.Placed p :=
  .intro (fun _ _ h => nomatch h) fun _ _ h => nomatch h

/-- Only the functions in sight matter. -/
theorem of_eq (h : S.Placed p) (hfunctions : S'.functions = S.functions) : S'.Placed p :=
  .intro (fun _ _ hg => (h.closure (hfunctions ▸ hg)).1) fun _ _ hg => (h.closure (hfunctions ▸ hg)).2

/-- A function that is defined at its place comes into sight. -/
theorem define {f : FunctionDef Stmt} (h : S.Placed p) (hf : (Closure.mk f q S).Placed p)
    (hfunctions : S'.functions = S.functions.insert f.name ⟨f, q, S⟩) : S'.Placed p := by
  have hall : ∀ g cl, S'.functions.find? g = some cl → cl.Placed p ∧ cl.static.Placed p := by
    intro g cl hg
    rw [hfunctions, NameMap.find?_insert] at hg
    split at hg
    · obtain rfl := Option.some.inj hg
      exact ⟨hf, h⟩
    · exact h.closure hg
  exact .intro (fun g cl hg => (hall g cl hg).1) fun g cl hg => (hall g cl hg).2

/-- Parameters are no functions. -/
theorem withParams (h : S.Placed p) (q : Site) (i : Nat) (ps : List Param) :
    (S.withParams q i ps).Placed p := by
  induction ps generalizing S i with
  | nil => exact h
  | cons param ps ih => exact ih (S := S.withParam param (i :: 0 :: q)) (h.of_eq rfl) (i + 1)

end Static.Placed

/-- Inside a function its own definition is in sight too. -/
theorem Closure.Placed.inside {cl : Closure} (h : cl.Placed p) (hstatic : cl.static.Placed p) :
    cl.inside.Placed p := by
  obtain ⟨definition, place, static⟩ := cl
  exact hstatic.define h rfl

namespace Stmt.Placed

variable {line : Nat} {condition : Expr} {yes no body units : Block Stmt}

/-- A declared name is no channel. -/
theorem declares {x : String} {type : TypeExpr} {value : Expr} {t : StaticType}
    (h : (Stmt.declare line x type value).Placed p S q) : p.channelOf? ⟨q, t⟩ = none := by
  refine Program.channelOf?_eq_none fun ch hch => ?_
  cases h.stands.symm.trans hch

/-- A client channel is found at its place under its name. -/
theorem client {ch : ClientChannel} {t : StaticType} (h : (Stmt.client ch).Placed p S q) :
    p.channelOf? ⟨q, t⟩ = some ch.name := by
  rw [Program.channelOf?, h.stands]

/-- What a definition says is kept with its place. -/
theorem function {f : FunctionDef Stmt} (h : (Stmt.function f).Placed p S q) :
    (Closure.mk f q S).Placed p :=
  ⟨Program.construct?_cons h.stands, .of_part h.stands rfl h.spares⟩

/-- The first block of a branch stands below it, in front of the second. -/
theorem branchYes {no? : Option (Block Stmt)} (h : (Stmt.branch line condition yes no?).Placed p S q) :
    PlacedAll p S.opened (0 :: q) 0 yes.statements := by
  refine .of_part h.stands rfl ?_
  have hspares := h.spares
  cases no? with
  | none => exact hspares
  | some no => exact (Program.spares_append.mp hspares).1

/-- The second block stands behind the first. -/
theorem branchNo (h : (Stmt.branch line condition yes (some no)).Placed p S q) :
    PlacedAll p S.opened (1 :: q) 0 no.statements :=
  .of_part h.stands rfl (Program.spares_append.mp h.spares).2

/-- The body of a loop stands below the loop. -/
theorem «while» (h : (Stmt.while line condition body).Placed p S q) :
    PlacedAll p S.inLoop.opened (0 :: q) 0 body.statements :=
  .of_part h.stands rfl h.spares

/-- All three parts of such a loop are placed below it, behind its first statement. -/
theorem «for» {init : Stmt} {update : Assignment}
    (h : (Stmt.for line init condition update body).Placed p S q) :
    init.Placed p S.opened (0 :: q) ∧ p.Spares (update.targets (S.opened.after (0 :: q) init)) ∧
      PlacedAll p (S.opened.after (0 :: q) init).inRound (1 :: q) 0 body.statements := by
  obtain ⟨hinit, hrest⟩ := Program.spares_append.mp h.spares
  obtain ⟨hupdate, hbody⟩ := Program.spares_append.mp hrest
  exact ⟨⟨Program.construct?_cons h.stands, hinit⟩, hupdate, .of_part h.stands rfl hbody⟩

/-- The statements of a sequential block stand below it. -/
theorem seq (h : (Stmt.seq body).Placed p S q) : PlacedAll p S.opened (0 :: q) 0 body.statements :=
  .of_part h.stands rfl h.spares

/-- So do those of a block without a word. -/
theorem block (h : (Stmt.block body).Placed p S q) :
    PlacedAll p S.opened (0 :: q) 0 body.statements :=
  .of_part h.stands rfl h.spares

/-- What the units of a block assign to is what each of them does. -/
theorem spares_unit {ss : List Stmt} {i : Nat} (h : p.Spares (targetsOfUnits S q i ss)) (j : Nat)
    (hs : ss[j]? = some s) : p.Spares (s.targets S.inUnit ((i + j) :: q)) := by
  induction ss generalizing i j with
  | nil => simp at hs
  | cons s' rest ih =>
    rw [targetsOfUnits, Program.spares_append] at h
    cases j with
    | zero =>
      obtain rfl : s' = s := by simpa using hs
      exact h.1
    | succ j =>
      have hspares := ih h.2 j (by simpa using hs)
      rwa [Nat.add_assoc, Nat.add_comm 1 j] at hspares

/-- Each unit stands at its place, with nothing but its own names to break out of. -/
theorem unit {i : Nat} (h : (Stmt.par units).Placed p S q) (hs : units.statements[i]? = some s) :
    s.Placed p S.inUnit (i :: q) := by
  refine ⟨?_, by simpa using spares_unit h.spares i hs⟩
  rw [Program.construct?_cons h.stands, Construct.part?, Stmt.part?, hs, Option.map_some]

end Stmt.Placed

/-- Behind a placed statement the functions are placed. -/
theorem Static.Placed.after (h : S.Placed p) (hs : s.Placed p S q) : (S.after q s).Placed p := by
  cases s with
  | function f => exact h.define hs.function rfl
  | _ => exact h.of_eq rfl

end ParLang
