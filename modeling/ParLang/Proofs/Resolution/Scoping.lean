import Mathlib.Data.List.Nodup
import ParLang.Proofs.Resolution.Traced
import ParLang.Proofs.Typing.Fragment

/-!
# Free names, captures and clobbered functions

Two ways in which a run may come to mean something else by a name than the checker, and the programs
without them.

A call sees the scopes of the function's definition as they are then. So a declaration captures a name
if it stands behind a function in the same scope that takes the name from outside: a call behind the
declaration finds the new binding.

The functions of a run are in one table, and no block removes those that it defines. So a function that
is defined in the body of another overwrites one of the same name that another call has defined.
-/

namespace ParLang

/-! ## Free names -/

mutual

/-- The identifiers in an expression. -/
def Expr.idents : Expr → List String
  | .ident _ x => [x]
  | .binary _ _ left right => left.idents ++ right.idents
  | .unary _ _ operand => operand.idents
  | .call _ _ args => identsOf args
  | .index _ base position => base.idents ++ position.idents
  | .array _ items => identsOf items
  | .number _ _ | .text _ _ | .truth _ _ => []

/-- The identifiers in expressions. -/
def identsOf : List Expr → List String
  | [] => []
  | e :: rest => e.idents ++ identsOf rest

end

/-- The identifiers in an assignment, its target included. -/
def Assignment.idents (a : Assignment) : List String :=
  match a.target with
  | .variable _ x => x :: a.value.idents
  | .cell base position => base.idents ++ position.idents ++ a.value.idents

/-- The names but for the one that is declared in front of them. -/
def unbound (declared? : Option String) (names : List String) : List String :=
  names.filter fun x => declared? != some x

/-- The free names of parameters with a body behind them that has the given ones. -/
def freeInParams (body : List String) : List Param → List String
  | [] => body
  | p :: ps =>
    (match p.default? with
      | some e => e.idents
      | none => []) ++ unbound (some p.name) (freeInParams body ps)

mutual

/-- The names that a statement takes from outside. -/
def Stmt.free : Stmt → List String
  | .declare _ _ _ value => value.idents
  | .assign a => a.idents
  | .function f => freeInParams (freeOf f.body.statements) f.params
  | .return _ value => value.idents
  | .branch _ condition yes none => condition.idents ++ freeOf yes.statements
  | .branch _ condition yes (some no) =>
    condition.idents ++ (freeOf yes.statements ++ freeOf no.statements)
  | .while _ condition body => condition.idents ++ freeOf body.statements
  | .for _ init condition update body =>
    init.free ++ unbound (init.declares?.map Prod.fst)
      (condition.idents ++ (update.idents ++ freeOf body.statements))
  | .seq body | .block body => freeOf body.statements
  | .par units => freeOfUnits units.statements
  | .expr _ value => value.idents
  | .server ch => ch.description.idents ++ (ch.host.idents ++ ch.port.idents)
  | .client ch => ch.host.idents ++ ch.port.idents
  | .break _ | .continue _ => []

/-- The free names of statements in order. -/
def freeOf : List Stmt → List String
  | [] => []
  | s :: rest => s.free ++ unbound (s.declares?.map Prod.fst) (freeOf rest)

/-- The free names of the units of a parallel block. -/
def freeOfUnits : List Stmt → List String
  | [] => []
  | s :: rest => s.free ++ freeOfUnits rest

end

/-- The names that a function takes from outside. -/
def FunctionDef.free (f : FunctionDef Stmt) : List String :=
  freeInParams (freeOf f.body.statements) f.params

/-- What a unit takes from outside, its block takes. -/
theorem subset_freeOfUnits {s : Stmt} {units : List Stmt} (hs : s ∈ units) :
    s.free ⊆ freeOfUnits units := by
  induction units with
  | nil => cases hs
  | cons u rest ih =>
    rw [freeOfUnits]
    rcases List.mem_cons.mp hs with rfl | hs
    · exact List.subset_append_left _ _
    · exact List.subset_append_of_subset_right _ (ih hs)

/-! ## Captures -/

/-- The names that functions in the scope of a statement take from outside, once it has run. -/
def Stmt.takes (taken : List String) : Stmt → List String
  | .function f => f.free ++ taken
  | _ => taken

mutual

/-- No scope inside the statement captures a name. -/
def Stmt.captureFree : Stmt → Bool
  | .function f => captureFreeBehind [] f.body.statements
  | .branch _ _ yes none => captureFreeBehind [] yes.statements
  | .branch _ _ yes (some no) =>
    captureFreeBehind [] yes.statements && captureFreeBehind [] no.statements
  | .while _ _ body => captureFreeBehind [] body.statements
  | .for _ init _ _ body => init.captureFree && captureFreeBehind [] body.statements
  | .seq body | .block body => captureFreeBehind [] body.statements
  | .par units => captureFreeUnits units.statements
  | _ => true

/-- Nor does the scope of the statements itself, behind functions that take the given names. -/
def captureFreeBehind (taken : List String) : List Stmt → Bool
  | [] => true
  | s :: rest =>
    s.captureFree && (s.declares?.all fun x => !taken.contains x.1) &&
      captureFreeBehind (s.takes taken) rest

/-- No scope inside the units captures a name. What a unit declares at its top ends with it. -/
def captureFreeUnits : List Stmt → Bool
  | [] => true
  | s :: rest => s.captureFree && captureFreeUnits rest

end

/-- No scope declares a name behind a function in it that takes the name from outside. -/
def Program.CaptureFree (p : Program) : Prop :=
  captureFreeBehind [] p.statements = true

/-- Whether a program captures names can be told from its text. -/
instance (p : Program) : Decidable p.CaptureFree :=
  inferInstanceAs (Decidable (_ = true))

/-! ## The functions of a program with where they are defined -/

mutual

/-- The functions that a statement at the place defines anywhere inside. -/
def Stmt.closures (S : Static) (q : Site) : Stmt → List Closure
  | .function f =>
    ⟨f, q, S⟩ ::
      closuresOf ((S.inFunction f q).withParams q 0 f.params) (1 :: q) 0 f.body.statements
  | .branch _ _ yes none => closuresOf S.opened (0 :: q) 0 yes.statements
  | .branch _ _ yes (some no) =>
    closuresOf S.opened (0 :: q) 0 yes.statements ++ closuresOf S.opened (1 :: q) 0 no.statements
  | .while _ _ body => closuresOf S.inLoop.opened (0 :: q) 0 body.statements
  | .for _ init _ _ body =>
    init.closures S.opened (0 :: q) ++
      closuresOf (S.opened.after (0 :: q) init).inRound (1 :: q) 0 body.statements
  | .seq body | .block body => closuresOf S.opened (0 :: q) 0 body.statements
  | .par units => closuresOfUnits S q 0 units.statements
  | _ => []

/-- The functions of statements in order, from number `i` on. -/
def closuresOf (S : Static) (q : Site) (i : Nat) : List Stmt → List Closure
  | [] => []
  | s :: rest => s.closures S (i :: q) ++ closuresOf (S.after (i :: q) s) q (i + 1) rest

/-- The functions of the units of a parallel block, from number `i` on. -/
def closuresOfUnits (S : Static) (q : Site) (i : Nat) : List Stmt → List Closure
  | [] => []
  | s :: rest => s.closures S.inUnit (i :: q) ++ closuresOfUnits S q (i + 1) rest

end

/-- The functions that are defined in the body of the function. -/
def Closure.closures (cl : Closure) : List Closure :=
  closuresOf cl.body (1 :: cl.place) 0 cl.definition.body.statements

/-- The functions of the program. -/
def Program.closures (p : Program) : List Closure :=
  closuresOf .initial [] 0 p.statements

/-- Parameters open no scope. -/
@[simp] theorem Static.depth_withParams (S : Static) (q : Site) (i : Nat) (ps : List Param) :
    (S.withParams q i ps).depth = S.depth := by
  induction ps generalizing S i with
  | nil => rfl
  | cons p ps ih => exact ih _ _

mutual

/-- Where functions are defined is written down beside them; they are the functions of the program. -/
theorem Stmt.map_closures : ∀ (s : Stmt) (S : Static) (q : Site),
    (s.closures S q).map Closure.function = s.functions S.depth
  | .function ⟨line, name, params, returns, ⟨_, body⟩⟩, S, q => by
    rw [Stmt.closures, Stmt.functions, List.map_cons, map_closuresOf, Static.depth_withParams]
    rfl
  | .branch _ _ ⟨_, yes⟩ none, S, q => map_closuresOf yes S.opened (0 :: q) 0
  | .branch _ _ ⟨_, yes⟩ (some ⟨_, no⟩), S, q => by
    rw [Stmt.closures, Stmt.functions, List.map_append, map_closuresOf, map_closuresOf]
    rfl
  | .while _ _ ⟨_, body⟩, S, q => map_closuresOf body S.inLoop.opened (0 :: q) 0
  | .for _ init _ _ ⟨_, body⟩, S, q => by
    rw [Stmt.closures, Stmt.functions, List.map_append, Stmt.map_closures, map_closuresOf]
    rfl
  | .seq ⟨_, body⟩, S, q => map_closuresOf body S.opened (0 :: q) 0
  | .block ⟨_, body⟩, S, q => map_closuresOf body S.opened (0 :: q) 0
  | .par ⟨_, units⟩, S, q => map_closuresOfUnits units S q 0
  | .declare .., _, _ | .assign _, _, _ | .return .., _, _ | .break _, _, _ | .continue _, _, _
  | .expr .., _, _ | .server _, _, _ | .client _, _, _ => rfl

/-- The functions of a program, with their places left out. -/
theorem map_closuresOf : ∀ (ss : List Stmt) (S : Static) (q : Site) (i : Nat),
    (closuresOf S q i ss).map Closure.function = functionsOf S.depth ss
  | [], _, _, _ => rfl
  | s :: rest, S, q, i => by
    rw [closuresOf, functionsOf, List.map_append, Stmt.map_closures, map_closuresOf]
    rfl

/-- The same for the units of a parallel block. -/
theorem map_closuresOfUnits : ∀ (ss : List Stmt) (S : Static) (q : Site) (i : Nat),
    (closuresOfUnits S q i ss).map Closure.function = functionsOf S.depth ss
  | [], _, _, _ => rfl
  | s :: rest, S, q, i => by
    rw [closuresOfUnits, functionsOf, List.map_append, Stmt.map_closures, map_closuresOfUnits]
    rfl

end

/-! ## Clobbered functions -/

/-- A function that is defined in the body of another has a name that no other function has. Functions
in blocks outside of functions may share a name. -/
def Program.Unclobbered (p : Program) : Prop :=
  ∀ f ∈ p.functions, ∀ g ∈ functionsOf (f.depth + 1) f.definition.body.statements,
    (p.functions.map (·.definition.name)).count g.definition.name ≤ 1

/-- Whether definitions clobber one another can be told from the text too. -/
instance (p : Program) : Decidable p.Unclobbered :=
  inferInstanceAs (Decidable (∀ f ∈ p.functions, ∀ g ∈ functionsOf _ _, _ ≤ 1))

/-- If all names of functions are different then no definition clobbers another. -/
theorem Program.unclobbered_of_nodup {p : Program}
    (h : (p.functions.map (·.definition.name)).Nodup) : p.Unclobbered :=
  fun _ _ _ _ => List.nodup_iff_count_le_one.mp h _

/-- The functions that a run may define, and what it is watched for. -/
structure Survey where
  watch : Watch
  closures : List Closure
  /-- Functions in the body of another have names of their own. -/
  sole : ∀ cl ∈ closures, ∀ g ∈ cl.closures, ∀ a ∈ closures, ∀ b ∈ closures,
    a.definition.name = g.definition.name → b.definition.name = g.definition.name → a = b

/-- There is at most one function of the name. -/
def Survey.Sole (K : Survey) (name : String) : Prop :=
  ∀ a ∈ K.closures, ∀ b ∈ K.closures, a.definition.name = name → b.definition.name = name → a = b

/-- A name that occurs once at most belongs to one item. -/
theorem eq_of_count_map_le_one {α : Type} {f : α → String} {l : List α} {x : String} {a b : α}
    (h : (l.map f).count x ≤ 1) (ha : a ∈ l) (hb : b ∈ l) (hfa : f a = x) (hfb : f b = x) :
    a = b := by
  induction l with
  | nil => cases ha
  | cons c rest ih =>
    rw [List.map_cons, List.count_cons] at h
    -- A second element of the name would count twice.
    have hrest : ∀ d ∈ rest, f d = x → 0 < (rest.map f).count x := fun d hd hfd =>
      List.count_pos_iff.mpr (hfd ▸ List.mem_map_of_mem hd)
    rcases List.mem_cons.mp ha with rfl | ha' <;> rcases List.mem_cons.mp hb with rfl | hb'
    · rfl
    · have := hrest b hb' hfb
      simp only [hfa, beq_self_eq_true, if_true] at h
      omega
    · have := hrest a ha' hfa
      simp only [hfb, beq_self_eq_true, if_true] at h
      omega
    · exact ih (by omega) ha' hb'

/-- The functions of a program. -/
def Program.survey (p : Program) (w : Watch) (h : p.Unclobbered) : Survey where
  watch := w
  closures := p.closures
  sole cl hcl g hg a ha b hb hname hname' := by
    have hfunctions : p.closures.map Closure.function = p.functions := map_closuresOf _ _ _ _
    have hinside : cl.closures.map Closure.function =
        functionsOf (cl.static.depth + 1) cl.definition.body.statements := by
      rw [Closure.closures, map_closuresOf, Closure.body, Static.depth_withParams]
      rfl
    have hcount := h cl.function (hfunctions ▸ List.mem_map_of_mem hcl) g.function
      (hinside ▸ List.mem_map_of_mem hg)
    rw [← hfunctions, List.map_map] at hcount
    exact eq_of_count_map_le_one hcount ha hb hname hname'

end ParLang
