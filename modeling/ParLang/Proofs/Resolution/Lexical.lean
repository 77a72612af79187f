import Mathlib.Order.Nat
import ParLang.Proofs.Resolution.Scoping

/-!
# What is known at a place

`Static.Lexical` says that what is written down at a place of the program belongs together: the labels
are those of the checker's variables, the functions those of its table, and the functions that were
visible at the definition of a visible function still are. It holds at the start of a program and is
kept on the way to each part of what the checker accepts.

`Stmt.Scoped` collects what a watched run relies on in a statement: the checker accepts it, no scope
inside captures a name if names are watched, and the functions inside are those of the survey. It comes
apart along the statement.
-/

namespace ParLang

/-- What a name stands for in the first map it stands for in the second. -/
def NameMap.Within {α : Type} (m m' : NameMap α) : Prop :=
  ∀ g a, m.find? g = some a → m'.find? g = some a

/-- What is new under its name hides nothing. -/
theorem NameMap.Within.insert {α : Type} {m : NameMap α} {name : String} (a : α)
    (h : m.find? name = none) : m.Within (m.insert name a) := by
  intro g b hb
  rw [NameMap.find?_insert, if_neg]
  · exact hb
  · rintro rfl
    rw [h] at hb
    cases hb

/-! ## Places -/

/-- The signature that the checker gives to the function. -/
def Closure.signature? (cl : Closure) : Option Signature :=
  (Check.signature cl.definition cl.static.context).1.toOption

/-- The checker accepts the definition. -/
def Closure.Accepted (cl : Closure) : Prop :=
  ∃ c', Check.statement (.function cl.definition) cl.static.context = (.ok (), c')

/-- What is known at the place belongs together. -/
inductive Static.Lexical : Static → Prop where
  | intro {S : Static} (hpos : 0 < S.depth)
      (hlabels : Scopes.Beside (fun t (d : Declaration) => t = d.type)
        S.context.names.scopes.toList S.labels.toList)
      (hsignatures : ∀ g, S.context.names.functions.find? g =
        (S.functions.find? g).bind Closure.signature?)
      (hvisible : ∀ g cl, S.functions.find? g = some cl →
        cl.definition.name = g ∧ cl.Accepted ∧ cl.static.depth ≤ S.depth ∧
          cl.static.functions.Within S.functions)
      (hstatic : ∀ g cl, S.functions.find? g = some cl → Lexical cl.static) : Lexical S

/-- An accepted function has a signature, and to find it changes nothing at its place. -/
theorem Closure.Accepted.signature? {cl : Closure} (h : cl.Accepted) :
    ∃ s, cl.signature? = some s ∧ Check.signature cl.definition cl.static.context =
      (.ok s, cl.static.context) := by
  obtain ⟨c', h⟩ := h
  cases Check.accepts_of_statement h with
  | @function _ s _ hs _ _ _ => exact ⟨s, by rw [Closure.signature?, hs]; rfl, hs⟩

namespace Static.Lexical

variable {S S' : Static} {g : String} {cl : Closure}

/-- There is a scope. -/
theorem pos (h : S.Lexical) : 0 < S.depth := by
  cases h; assumption

/-- The types that the checker knows of variables are those of the labels. -/
theorem labels (h : S.Lexical) : Scopes.Beside (fun t (d : Declaration) => t = d.type)
    S.context.names.scopes.toList S.labels.toList := by
  cases h; assumption

/-- The signatures that it knows are those of the functions in sight. -/
theorem signatures (h : S.Lexical) (g : String) :
    S.context.names.functions.find? g = (S.functions.find? g).bind Closure.signature? := by
  cases h with
  | intro _ _ hsignatures _ _ => exact hsignatures g

/-- A function in sight was accepted where it is defined, which is further out, and what was in sight there
is in sight here. -/
theorem visible (h : S.Lexical) (hg : S.functions.find? g = some cl) :
    cl.definition.name = g ∧ cl.Accepted ∧ cl.static.depth ≤ S.depth ∧
      cl.static.functions.Within S.functions := by
  cases h with
  | intro _ _ _ hvisible _ => exact hvisible g cl hg

/-- The place of a function in sight belongs together as well. -/
theorem static (h : S.Lexical) (hg : S.functions.find? g = some cl) : cl.static.Lexical := by
  cases h with
  | intro _ _ _ _ hstatic => exact hstatic g cl hg

/-- At the start of a program nothing is known. -/
theorem initial : Static.initial.Lexical :=
  .intro Nat.one_pos Scopes.beside_new (fun _ => rfl) (fun _ _ h => nomatch h) fun _ _ h => nomatch h

/-- The checker sees a signature where a function is visible. -/
theorem sees {s : Signature} (h : S.Lexical) (hs : S.context.names.functions.find? g = some s) :
    ∃ cl, S.functions.find? g = some cl ∧ cl.signature? = some s := by
  rw [h.signatures] at hs
  exact Option.bind_eq_some_iff.mp hs

/-- A name without a signature is that of no visible function. -/
theorem find?_eq_none (h : S.Lexical) (hg : S.context.names.functions.contains g = false) :
    S.functions.find? g = none := by
  rw [NameMap.contains, h.signatures] at hg
  cases hcl : S.functions.find? g with
  | none => rfl
  | some cl =>
    obtain ⟨s, hs, -⟩ := (h.visible hcl).2.1.signature?
    rw [hcl, Option.bind_some, hs] at hg
    cases hg

/-- Variables, jumps and scopes may change as long as the labels go along. -/
theorem of_eq (h : S.Lexical) (hdepth : S.depth ≤ S'.depth) (hfunctions : S'.functions = S.functions)
    (hnames : S'.context.names.functions = S.context.names.functions)
    (hlabels : Scopes.Beside (fun t (d : Declaration) => t = d.type)
      S'.context.names.scopes.toList S'.labels.toList) : S'.Lexical := by
  refine .intro (Nat.lt_of_lt_of_le h.pos hdepth) hlabels (fun g => ?_) (fun g cl hg => ?_)
    fun g cl hg => h.static (hfunctions ▸ hg)
  · rw [hnames, hfunctions, h.signatures]
  · rw [hfunctions] at hg ⊢
    obtain ⟨hname, haccepted, hcl, hwithin⟩ := h.visible hg
    exact ⟨hname, haccepted, hcl.trans hdepth, hwithin⟩

/-- A definition that the checker accepts becomes visible, and hides none. -/
theorem define {f : FunctionDef Stmt} {s : Signature} {q : Site} (h : S.Lexical)
    (hs : Check.signature f S.context = (.ok s, S.context)) (haccepted : (Closure.mk f q S).Accepted)
    (hdepth : S.depth ≤ S'.depth) (hfunctions : S'.functions = S.functions.insert f.name ⟨f, q, S⟩)
    (hnames : S'.context.names.functions = S.context.names.functions.insert f.name s)
    (hlabels : Scopes.Beside (fun t (d : Declaration) => t = d.type)
      S'.context.names.scopes.toList S'.labels.toList) : S'.Lexical := by
  have hwithin : S.functions.Within S'.functions :=
    hfunctions ▸ NameMap.Within.insert _ (h.find?_eq_none (signature_fresh hs))
  have hsignature : (Closure.mk f q S).signature? = some s := by
    rw [Closure.signature?, hs]
    rfl
  refine .intro (Nat.lt_of_lt_of_le h.pos hdepth) hlabels (fun g => ?_) (fun g cl hg => ?_)
    fun g cl hg => ?_
  · rw [hnames, hfunctions, NameMap.find?_insert, NameMap.find?_insert]
    split
    · exact hsignature.symm
    · exact h.signatures g
  · rw [hfunctions, NameMap.find?_insert] at hg
    split at hg
    · next hname =>
      obtain rfl := Option.some.inj hg
      exact ⟨hname, haccepted, hdepth, hwithin⟩
    · obtain ⟨hname, haccepted, hcl, hwithin'⟩ := h.visible hg
      exact ⟨hname, haccepted, hcl.trans hdepth, fun g cl hg => hwithin g cl (hwithin' g cl hg)⟩
  · rw [hfunctions, NameMap.find?_insert] at hg
    split at hg
    · obtain rfl := Option.some.inj hg
      exact h
    · exact h.static hg

/-- A scope of its own. -/
theorem opened (h : S.Lexical) : S.opened.Lexical :=
  h.of_eq (Nat.le_succ _) rfl rfl h.labels.push

/-- To be in a loop. -/
theorem inLoop (h : S.Lexical) : S.inLoop.Lexical :=
  h.of_eq le_rfl rfl rfl h.labels

/-- A round of a loop, whose scope the checker does not count. -/
theorem inRound (h : S.Lexical) : S.inRound.Lexical :=
  h.of_eq (Nat.le_succ _) rfl rfl h.labels

/-- A unit of a parallel block. -/
theorem inUnit (h : S.Lexical) : S.inUnit.Lexical :=
  h.of_eq le_rfl rfl rfl h.labels.push

/-- A parameter is declared with its label. -/
theorem withParam (h : S.Lexical) (p : Param) (q : Site) : (S.withParam p q).Lexical :=
  h.of_eq le_rfl rfl rfl (h.labels.declare rfl)

/-- Inside of a function, where it is in sight itself. -/
theorem inside {cl : Closure} (h : cl.static.Lexical) (haccepted : cl.Accepted) :
    cl.inside.Lexical := by
  obtain ⟨s, -, hs⟩ := haccepted.signature?
  have hcontext : cl.inside.context = cl.static.context.inFunction cl.definition.name s := by
    rw [Closure.inside, Static.inFunction, hs]
  refine h.define hs haccepted (Nat.le_succ _) rfl ?_ ?_
  · rw [hcontext]
    rfl
  · rw [hcontext]
    exact h.labels.push

end Static.Lexical

/-! ## Behind a statement -/

/-- **What is known behind an accepted statement**: it declares a variable, defines a function or
leaves everything as it is. -/
theorem Static.after_eq {S : Static} {q : Site} {s : Stmt} {c' : Context}
    (h : Check.statement s S.context = (.ok (), c')) :
    (∃ x t, s.declares? = some (x, t) ∧ S.after q s =
      { S with context := S.context.declared x t, labels := S.labels.declare x ⟨q, t⟩ }) ∨
    (∃ f t, s = .function f ∧ Check.signature f S.context = (.ok t, S.context) ∧ S.after q s =
      { S with context := S.context.defined f.name t,
               functions := S.functions.insert f.name ⟨f, q, S⟩ }) ∨
    (s.declares? = none ∧ (∀ f, s ≠ .function f) ∧ S.after q s = S) := by
  have hcontext : (Check.statement s S.context).2 = c' := congrArg Prod.snd h
  have hafter : S.after q s = { S with
      context := c', labels := s.mark q S.labels, functions := (S.after q s).functions } := by
    rw [← hcontext]
    rfl
  rw [hafter]
  cases Check.accepts_of_statement h with
  | @declare line x type value t found ht =>
    have hdeclares : (Stmt.declare line x type value).declares? = some (x, t) := by
      simp [Stmt.declares?, ht]
    exact .inl ⟨x, t, hdeclares, by rw [Stmt.mark, hdeclares]; rfl⟩
  | client => exact .inl ⟨_, .string, rfl, rfl⟩
  | @function f t _ hs => exact .inr (.inl ⟨f, t, rfl, hs, rfl⟩)
  | assign | «return» | branch | branchElse | «while» | «for» | «break» | «continue» | seq | block
  | par | expr | server => exact .inr (.inr ⟨rfl, by simp, by cases S; rfl⟩)

/-- What is known behind a statement belongs together if the statement is accepted. -/
theorem Static.Lexical.after {S : Static} {q : Site} {s : Stmt} {c' : Context} (h : S.Lexical)
    (hs : Check.statement s S.context = (.ok (), c')) : (S.after q s).Lexical := by
  obtain ⟨x, t, -, heq⟩ | ⟨f, t, rfl, ht, heq⟩ | ⟨-, -, heq⟩ := Static.after_eq (q := q) hs
  · rw [heq]
    exact h.of_eq le_rfl rfl rfl (h.labels.declare rfl)
  · rw [heq]
    exact h.define ht ⟨c', hs⟩ le_rfl rfl rfl h.labels
  · rw [heq]
    exact h

/-- No function is hidden behind an accepted statement. -/
theorem Static.Lexical.within_after {S : Static} {q : Site} {s : Stmt} {c' : Context}
    (h : S.Lexical) (hs : Check.statement s S.context = (.ok (), c')) :
    S.functions.Within (S.after q s).functions := by
  obtain ⟨x, t, -, heq⟩ | ⟨f, t, rfl, ht, heq⟩ | ⟨-, -, heq⟩ := Static.after_eq (q := q) hs
  · rw [heq]
    exact fun _ _ h => h
  · rw [heq]
    exact .insert _ (h.find?_eq_none (signature_fresh ht))
  · rw [heq]
    exact fun _ _ h => h

/-! ## What a watched run relies on -/

/-- The function is one of the survey, and alone with its name if it is in the body of another. -/
def Survey.Places (K : Survey) (inner : Bool) (cl : Closure) : Prop :=
  cl ∈ K.closures ∧ (inner → K.Sole cl.definition.name)

/-- What a run relies on in the statement at the place. -/
structure Stmt.Scoped (K : Survey) (S : Static) (q : Site) (s : Stmt) : Prop where
  accepted : ∃ c', Check.statement s S.context = (.ok (), c')
  captureFree : K.watch = .names → s.captureFree
  placed : ∀ cl ∈ s.closures S q, K.Places S.inner cl

/-- What a run relies on in statements in order, behind functions that take the given names. -/
structure ScopedAll (K : Survey) (taken : List String) (S : Static) (q : Site) (i : Nat)
    (ss : List Stmt) : Prop where
  accepted : ∃ c', Check.statements ss S.context = (.ok (), c')
  captureFree : K.watch = .names → captureFreeBehind taken ss
  placed : ∀ cl ∈ closuresOf S q i ss, K.Places S.inner cl

/-- What a run relies on in a function. -/
structure Closure.Scoped (K : Survey) (cl : Closure) : Prop where
  defaults : DefaultsTyped cl.inside.context cl.definition.params
  body : ScopedAll K [] cl.body (1 :: cl.place) 0 cl.definition.body.statements

/-- Parameters are declared for the checker in the same order. -/
@[simp] theorem Static.context_withParams (S : Static) (q : Site) (i : Nat) (ps : List Param) :
    (S.withParams q i ps).context = S.context.withParams ps := by
  induction ps generalizing S i with
  | nil => rfl
  | cons p ps ih => exact ih _ _

/-- They do not matter for whether the place is in a function. -/
@[simp] theorem Static.inner_withParams (S : Static) (q : Site) (i : Nat) (ps : List Param) :
    (S.withParams q i ps).inner = S.inner := by
  induction ps generalizing S i with
  | nil => rfl
  | cons p ps ih => exact ih _ _

namespace Stmt.Scoped

variable {K : Survey} {S : Static} {q : Site} {line : Nat}

/-- What is asked of a definition at its place: the survey has it there, and its body is as it should be. -/
theorem function {f : FunctionDef Stmt} (h : (Stmt.function f).Scoped K S q) :
    K.Places S.inner ⟨f, q, S⟩ ∧ (Closure.mk f q S).Scoped K := by
  obtain ⟨⟨c', haccepted⟩, hcapture, hplaced⟩ := h
  rw [Stmt.closures, List.forall_mem_cons] at hplaced
  cases Check.accepts_of_statement haccepted with
  | @function _ s c₂ hs _ hdefaults hbody =>
    have hcontext : (Closure.mk f q S).inside.context = S.context.inFunction f.name s := by
      rw [Closure.inside, Static.inFunction, hs]
    refine ⟨hplaced.1, hcontext ▸ hdefaults, ⟨c₂, ?_⟩, hcapture, fun cl hcl => ?_⟩
    · rw [Closure.body, Static.context_withParams, hcontext]
      exact hbody
    · exact ⟨(hplaced.2 cl hcl).1, fun _ => K.sole _ hplaced.1.1 cl hcl⟩

/-- What is asked of a branch. -/
theorem branch {condition : Expr} {yes : Block Stmt}
    (h : (Stmt.branch line condition yes none).Scoped K S q) :
    condition.Typed S.context.names ∧ ScopedAll K [] S.opened (0 :: q) 0 yes.statements := by
  obtain ⟨⟨c', haccepted⟩, hcapture, hplaced⟩ := h
  cases Check.accepts_of_statement haccepted with
  | branch hc hyes => exact ⟨⟨_, hc⟩, ⟨_, hyes⟩, hcapture, hplaced⟩

/-- What is asked of a branch with two blocks. -/
theorem branchElse {condition : Expr} {yes no : Block Stmt}
    (h : (Stmt.branch line condition yes (some no)).Scoped K S q) :
    condition.Typed S.context.names ∧ ScopedAll K [] S.opened (0 :: q) 0 yes.statements ∧
      ScopedAll K [] S.opened (1 :: q) 0 no.statements := by
  obtain ⟨⟨c', haccepted⟩, hcapture, hplaced⟩ := h
  simp only [Stmt.captureFree, Bool.and_eq_true] at hcapture
  rw [Stmt.closures, List.forall_mem_append] at hplaced
  cases Check.accepts_of_statement haccepted with
  | branchElse hc hyes hno =>
    exact ⟨⟨_, hc⟩, ⟨⟨_, hyes⟩, fun hw => (hcapture hw).1, hplaced.1⟩,
      ⟨_, hno⟩, fun hw => (hcapture hw).2, hplaced.2⟩

/-- What is asked of a loop. -/
theorem «while» {condition : Expr} {body : Block Stmt}
    (h : (Stmt.while line condition body).Scoped K S q) :
    condition.Typed S.context.names ∧
      ScopedAll K [] S.inLoop.opened (0 :: q) 0 body.statements := by
  obtain ⟨⟨c', haccepted⟩, hcapture, hplaced⟩ := h
  cases Check.accepts_of_statement haccepted with
  | «while» hc hbody => exact ⟨⟨_, hc⟩, ⟨_, hbody⟩, hcapture, hplaced⟩

/-- The condition, the update and the body of a loop are checked behind its first statement. -/
theorem «for» {init : Stmt} {condition : Expr} {update : Assignment} {body : Block Stmt}
    (h : (Stmt.for line init condition update body).Scoped K S q) :
    init.Scoped K S.opened (0 :: q) ∧
      condition.Typed (S.opened.after (0 :: q) init).context.names ∧
      update.Typed (S.opened.after (0 :: q) init).context.names ∧
      ScopedAll K [] (S.opened.after (0 :: q) init).inRound (1 :: q) 0 body.statements := by
  obtain ⟨⟨c', haccepted⟩, hcapture, hplaced⟩ := h
  simp only [Stmt.captureFree, Bool.and_eq_true] at hcapture
  rw [Stmt.closures, List.forall_mem_append] at hplaced
  cases Check.accepts_of_statement haccepted with
  | @«for» _ _ _ _ _ c₁ c₂ hinit hc hu hbody =>
    obtain rfl : (S.opened.after (0 :: q) init).context = c₁ := congrArg Prod.snd hinit
    exact ⟨⟨⟨_, hinit⟩, fun hw => (hcapture hw).1, hplaced.1⟩, ⟨_, hc⟩,
      (Assignment.Typed.of_assignment hu).1, ⟨_, hbody⟩, fun hw => (hcapture hw).2, hplaced.2⟩

/-- What is asked of a sequential block. -/
theorem seq {body : Block Stmt} (h : (Stmt.seq body).Scoped K S q) :
    ScopedAll K [] S.opened (0 :: q) 0 body.statements := by
  obtain ⟨⟨c', haccepted⟩, hcapture, hplaced⟩ := h
  cases Check.accepts_of_statement haccepted with
  | seq hbody => exact ⟨⟨_, hbody⟩, hcapture, hplaced⟩

/-- What is asked of a block without a word. -/
theorem block {body : Block Stmt} (h : (Stmt.block body).Scoped K S q) :
    ScopedAll K [] S.opened (0 :: q) 0 body.statements := by
  obtain ⟨⟨c', haccepted⟩, hcapture, hplaced⟩ := h
  cases Check.accepts_of_statement haccepted with
  | block hbody => exact ⟨⟨_, hbody⟩, hcapture, hplaced⟩

/-- What is asked of units, from what is asked of their block: each of them stands in a scope of its own. -/
theorem of_units {i : Nat} {units : List Stmt}
    (haccepted : ∀ s ∈ units, ∃ c₁, Check.statement s S.context.inUnit = (.ok (), c₁))
    (hcapture : K.watch = .names → captureFreeUnits units)
    (hplaced : ∀ cl ∈ closuresOfUnits S q i units, K.Places S.inner cl) :
    ∀ (j : Nat) (s : Stmt), units[j]? = some s → s.Scoped K S.inUnit ((i + j) :: q) := by
  induction units generalizing i with
  | nil => simp
  | cons s rest ih =>
    simp only [captureFreeUnits, Bool.and_eq_true] at hcapture
    rw [closuresOfUnits, List.forall_mem_append] at hplaced
    obtain ⟨hs, hrest⟩ := List.forall_mem_cons.mp haccepted
    intro j s' hs'
    cases j with
    | zero =>
      obtain rfl : s = s' := by simpa using hs'
      exact ⟨hs, fun hw => (hcapture hw).1, hplaced.1⟩
    | succ j =>
      have := ih hrest (fun hw => (hcapture hw).2) hplaced.2 j s' (by simpa using hs')
      rwa [Nat.add_assoc, Nat.add_comm 1 j] at this

/-- What is asked of a parallel block. -/
theorem par {units : Block Stmt} (h : (Stmt.par units).Scoped K S q) :
    ∀ (i : Nat) (s : Stmt), units.statements[i]? = some s → s.Scoped K S.inUnit (i :: q) := by
  obtain ⟨⟨c', haccepted⟩, hcapture, hplaced⟩ := h
  intro i s hs
  cases Check.accepts_of_statement haccepted with
  | par hunits => simpa using of_units hunits hcapture hplaced i s hs

end Stmt.Scoped

/-- Statements come apart into the first one and the others behind it. -/
theorem ScopedAll.cons {K : Survey} {taken : List String} {S : Static} {q : Site} {i : Nat} {s : Stmt}
    {rest : List Stmt} (h : ScopedAll K taken S q i (s :: rest)) :
    s.Scoped K S (i :: q) ∧ (K.watch = .names → ∀ x t, s.declares? = some (x, t) → x ∉ taken) ∧
      ScopedAll K (s.takes taken) (S.after (i :: q) s) q (i + 1) rest := by
  obtain ⟨⟨c', haccepted⟩, hcapture, hplaced⟩ := h
  obtain ⟨c₁, hs, hrest⟩ := Check.statements_cons haccepted
  have hafter : (S.after (i :: q) s).context = c₁ := congrArg Prod.snd hs
  simp only [captureFreeBehind, Bool.and_eq_true] at hcapture
  rw [closuresOf, List.forall_mem_append] at hplaced
  refine ⟨⟨⟨c₁, hs⟩, fun hw => (hcapture hw).1.1, hplaced.1⟩, fun hw x t hx => ?_,
    ⟨c', hafter ▸ hrest⟩, fun hw => (hcapture hw).2, hplaced.2⟩
  simpa [hx] using (hcapture hw).1.2

end ParLang
