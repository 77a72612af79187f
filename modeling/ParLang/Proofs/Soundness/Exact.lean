import ParLang.Proofs.Resolution.Lexical
import ParLang.Proofs.Typing.Accepted

/-!
# Pieces of program whose types are exact

What typing relies on in a statement, where names are known to be resolved as by the checker: it is
accepted, no value changes its type on the way to where it is stored, and the functions inside surely
return. `Stmt.Exact` comes apart along the statement, and gives the parts their typing rules.

Nothing is asked of the names. Where a name is declared again, with another type or in another scope,
each place has the types of the declarations that it sees.
-/

namespace ParLang

variable {S : Static} {cl : Closure} {q : Site} {line : Nat}

/-! ## Functions -/

/-- The body of a function that gives back a value surely returns. -/
def Function.Returns (f : Function) : Prop :=
  StaticType.ofTypeExpr? f.definition.returns ≠ some .void → anyReturns f.definition.body.statements

/-- Parameters with their types; each default has the type of its parameter. -/
inductive ParamsExact : Context → List Param → List StaticType → Prop where
  | nil {c} : ParamsExact c [] []
  | cons {c p ps t ts} (ht : StaticType.ofTypeExpr? p.type = some t)
      (hdefault : ∀ e, p.default? = some e → HasType c.names e t)
      (hrest : ParamsExact (c.withParam p) ps ts) : ParamsExact c (p :: ps) (t :: ts)

/-- Parameters of an accepted definition have the types that the checker gives them, and so have their
defaults. -/
theorem ParamsExact.of_accepted {c c' : Context} {ps : List Param} {ts : List StaticType}
    (h : AcceptsParams c ps ts c') (hmono : monomorphicParams c ps ts) : ParamsExact c ps ts := by
  induction h with
  | nil => exact .nil
  | cons ht hdefault _ ih =>
    obtain ⟨hmonoDefault, hmono⟩ := hmono
    refine .cons ht (fun e he => ?_) (Context.withParam_eq ht ▸ ih hmono)
    obtain ⟨found, hfound, hok⟩ := hdefault e he
    obtain ⟨hm, hfits⟩ := hmonoDefault e he
    exact .of_assignable hm hfits hfound hok

/-- Each parameter has a type. -/
theorem ParamsExact.length_eq {c : Context} {ps : List Param} {ts : List StaticType}
    (h : ParamsExact c ps ts) : ps.length = ts.length := by
  induction h with
  | nil => rfl
  | cons _ _ _ ih => simp [ih]

/-! ## Statements -/

/-- What typing relies on in the statement. -/
structure Stmt.Exact (S : Static) (s : Stmt) : Prop where
  accepted : ∃ c', Check.statement s S.context = (.ok (), c')
  monomorphic : s.Monomorphic S.context
  returns : ∀ f ∈ s.functions S.depth, f.Returns

/-- What typing relies on in statements in order. -/
structure ExactAll (S : Static) (ss : List Stmt) : Prop where
  accepted : ∃ c', Check.statements ss S.context = (.ok (), c')
  monomorphic : monomorphicAll S.context ss
  returns : ∀ f ∈ functionsOf S.depth ss, f.Returns

/-- Of statements in sequence the first is exact where they stand, and the others are behind it. -/
theorem ExactAll.cons {s : Stmt} {rest : List Stmt} (h : ExactAll S (s :: rest)) :
    s.Exact S ∧ ExactAll (S.after q s) rest := by
  obtain ⟨⟨c', haccepted⟩, ⟨hs, hrest⟩, hreturns⟩ := h
  obtain ⟨c₁, hacceptedFirst, haccepted⟩ := Check.statements_cons haccepted
  obtain rfl : (S.after q s).context = c₁ := congrArg Prod.snd hacceptedFirst
  rw [functionsOf, List.forall_mem_append] at hreturns
  exact ⟨⟨⟨_, hacceptedFirst⟩, hs, hreturns.1⟩, ⟨⟨_, haccepted⟩, hrest, hreturns.2⟩⟩

namespace Stmt.Exact

/-- A declared value has the declared type. -/
theorem declare {x : String} {type : TypeExpr} {value : Expr}
    (h : (Stmt.declare line x type value).Exact S) :
    ∃ t, StaticType.ofTypeExpr? type = some t ∧ HasType S.context.names value t := by
  obtain ⟨⟨c', haccepted⟩, ⟨hmono, hfits⟩, -⟩ := h
  cases Check.accepts_of_statement haccepted with
  | @declare _ _ _ _ t _ ht hv hok => exact ⟨t, ht, .of_assignable hmono (hfits t ht) hv hok⟩

/-- An assigned value has the type of its target. -/
theorem assign {a : Assignment} (h : (Stmt.assign a).Exact S) : AssignTyped S.context.names a := by
  obtain ⟨⟨c', haccepted⟩, hmono, -⟩ := h
  exact (AssignTyped.of_assignment haccepted hmono).1

/-- A returned value has the type that its function returns. -/
theorem «return» {value : Expr} (h : (Stmt.return line value).Exact S) :
    ∃ f, S.context.function? = some f ∧ HasType S.context.names value f.returns := by
  obtain ⟨⟨c', haccepted⟩, hmono, -⟩ := h
  cases Check.accepts_of_statement haccepted with
  | «return» hf hv => exact ⟨_, hf, .of_typeIn hv hmono⟩

/-- The condition of a branch is a truth value. -/
theorem branch {condition : Expr} {yes : Block Stmt}
    (h : (Stmt.branch line condition yes none).Exact S) :
    HasType S.context.names condition .bool ∧ ExactAll S.opened yes.statements := by
  obtain ⟨⟨c', haccepted⟩, ⟨hmono, hmonoYes⟩, hreturns⟩ := h
  cases Check.accepts_of_statement haccepted with
  | branch hc hyes => exact ⟨.of_typeIn hc hmono, ⟨⟨_, hyes⟩, hmonoYes, hreturns⟩⟩

/-- So is that of a branch with two blocks. -/
theorem branchElse {condition : Expr} {yes no : Block Stmt}
    (h : (Stmt.branch line condition yes (some no)).Exact S) :
    HasType S.context.names condition .bool ∧ ExactAll S.opened yes.statements ∧
      ExactAll S.opened no.statements := by
  obtain ⟨⟨c', haccepted⟩, ⟨hmono, hmonoYes, hmonoNo⟩, hreturns⟩ := h
  rw [Stmt.functions, List.forall_mem_append] at hreturns
  cases Check.accepts_of_statement haccepted with
  | branchElse hc hyes hno =>
    exact ⟨.of_typeIn hc hmono, ⟨⟨_, hyes⟩, hmonoYes, hreturns.1⟩, ⟨⟨_, hno⟩, hmonoNo, hreturns.2⟩⟩

/-- So is that of a loop. -/
theorem «while» {condition : Expr} {body : Block Stmt}
    (h : (Stmt.while line condition body).Exact S) :
    HasType S.context.names condition .bool ∧ ExactAll S.inLoop.opened body.statements := by
  obtain ⟨⟨c', haccepted⟩, ⟨hmono, hmonoBody⟩, hreturns⟩ := h
  cases Check.accepts_of_statement haccepted with
  | «while» hc hbody => exact ⟨.of_typeIn hc hmono, ⟨⟨_, hbody⟩, hmonoBody, hreturns⟩⟩

/-- So is that of a loop with an update, behind its first statement. -/
theorem «for» {init : Stmt} {condition : Expr} {update : Assignment} {body : Block Stmt}
    (h : (Stmt.for line init condition update body).Exact S) :
    init.Exact S.opened ∧
      HasType (S.opened.after (0 :: q) init).context.names condition .bool ∧
      AssignTyped (S.opened.after (0 :: q) init).context.names update ∧
      ExactAll (S.opened.after (0 :: q) init).inRound body.statements := by
  obtain ⟨⟨c', haccepted⟩, ⟨hmonoInit, hmono, hmonoUpdate, hmonoBody⟩, hreturns⟩ := h
  rw [Stmt.functions, List.forall_mem_append] at hreturns
  cases Check.accepts_of_statement haccepted with
  | @«for» _ _ _ _ _ c₁ c₂ hinit hc hu hbody =>
    obtain rfl : (S.opened.after (0 :: q) init).context = c₁ := congrArg Prod.snd hinit
    exact ⟨⟨⟨_, hinit⟩, hmonoInit, hreturns.1⟩, .of_typeIn hc hmono,
      (AssignTyped.of_assignment hu hmonoUpdate).1, ⟨⟨_, hbody⟩, hmonoBody, hreturns.2⟩⟩

/-- A break stands in a loop. -/
theorem «break» (h : (Stmt.break line).Exact S) : S.context.loopDepth ≠ 0 := by
  obtain ⟨⟨c', haccepted⟩, -, -⟩ := h
  cases Check.accepts_of_statement haccepted with
  | «break» h => exact h

/-- So does a continue. -/
theorem «continue» (h : (Stmt.continue line).Exact S) : S.context.loopDepth ≠ 0 := by
  obtain ⟨⟨c', haccepted⟩, -, -⟩ := h
  cases Check.accepts_of_statement haccepted with
  | «continue» h => exact h

/-- The statements of a sequential block are exact in its scope. -/
theorem seq {body : Block Stmt} (h : (Stmt.seq body).Exact S) : ExactAll S.opened body.statements := by
  obtain ⟨⟨c', haccepted⟩, hmono, hreturns⟩ := h
  cases Check.accepts_of_statement haccepted with
  | seq hbody => exact ⟨⟨_, hbody⟩, hmono, hreturns⟩

/-- So are those of a block without a word. -/
theorem block {body : Block Stmt} (h : (Stmt.block body).Exact S) :
    ExactAll S.opened body.statements := by
  obtain ⟨⟨c', haccepted⟩, hmono, hreturns⟩ := h
  cases Check.accepts_of_statement haccepted with
  | block hbody => exact ⟨⟨_, hbody⟩, hmono, hreturns⟩

/-- The units of a block are exact, each where it stands, if the block is. -/
theorem of_units {units : List Stmt}
    (haccepted : ∀ s ∈ units, ∃ c₁, Check.statement s S.context.inUnit = (.ok (), c₁))
    (hmono : monomorphicUnits S.context units) (hreturns : ∀ f ∈ functionsOf S.depth units, f.Returns) :
    ∀ s ∈ units, s.Exact S.inUnit := by
  induction units with
  | nil => simp
  | cons s rest ih =>
    rw [functionsOf, List.forall_mem_append] at hreturns
    obtain ⟨hs, hrest⟩ := List.forall_mem_cons.mp haccepted
    exact List.forall_mem_cons.mpr ⟨⟨hs, hmono.1, hreturns.1⟩, ih hrest hmono.2 hreturns.2⟩

/-- The units of a parallel block are exact in scopes of their own. -/
theorem par {units : Block Stmt} (h : (Stmt.par units).Exact S) :
    ∀ s ∈ units.statements, s.Exact S.inUnit := by
  obtain ⟨⟨c', haccepted⟩, hmono, hreturns⟩ := h
  cases Check.accepts_of_statement haccepted with
  | par hunits => exact of_units hunits hmono hreturns

/-- A statement that is an expression has a type. -/
theorem expr {value : Expr} (h : (Stmt.expr line value).Exact S) :
    ∃ t, HasType S.context.names value t := by
  obtain ⟨⟨c', haccepted⟩, hmono, -⟩ := h
  cases Check.accepts_of_statement haccepted with
  | expr hv => exact ⟨_, .of_typeIn hv hmono⟩

/-- The description and the host of a server channel are texts, and its port is a number. -/
theorem server {ch : ServerChannel} (h : (Stmt.server ch).Exact S) :
    HasType S.context.names ch.description .string ∧ HasType S.context.names ch.host .string ∧
      HasType S.context.names ch.port .number := by
  obtain ⟨⟨c', haccepted⟩, ⟨hmonoDescription, hmonoHost, hmonoPort⟩, -⟩ := h
  cases Check.accepts_of_statement haccepted with
  | server hd hh hp =>
    exact ⟨.of_typeIn hd hmonoDescription, .of_typeIn hh hmonoHost, .of_typeIn hp hmonoPort⟩

/-- The host of a client channel is a text, and its port is a number. -/
theorem client {ch : ClientChannel} (h : (Stmt.client ch).Exact S) :
    HasType S.context.names ch.host .string ∧ HasType S.context.names ch.port .number := by
  obtain ⟨⟨c', haccepted⟩, ⟨hmonoHost, hmonoPort⟩, -⟩ := h
  cases Check.accepts_of_statement haccepted with
  | client hh hp => exact ⟨.of_typeIn hh hmonoHost, .of_typeIn hp hmonoPort⟩

end Stmt.Exact

/-! ## Functions -/

/-- What typing relies on in the function. -/
def Closure.Exact (cl : Closure) : Prop :=
  (Stmt.function cl.definition).Exact cl.static

/-- **What a call relies on**: the parameters and the body of the function have the types of its
signature. -/
theorem Closure.Exact.parts {s : Signature} (h : cl.Exact) (hs : cl.signature? = some s) :
    cl.inside.context = cl.static.context.inFunction cl.definition.name s ∧
      s.required = cl.definition.required ∧
      (∀ p ∈ cl.definition.params.drop cl.definition.required, p.default?.isSome) ∧
      ParamsExact cl.inside.context cl.definition.params s.params ∧
      ExactAll cl.body cl.definition.body.statements ∧
      (s.returns ≠ .void → anyReturns cl.definition.body.statements) := by
  obtain ⟨⟨c', haccepted⟩, hmono, hreturns⟩ := h
  rw [Stmt.functions, List.forall_mem_cons] at hreturns
  cases Check.accepts_of_statement haccepted with
  | @function _ s' c₂ hsignature hparams _ hbody =>
    obtain rfl : s' = s := by
      rw [Closure.signature?, hsignature] at hs
      exact Option.some.inj hs
    have hcontext : cl.inside.context = cl.static.context.inFunction cl.definition.name s' := by
      rw [Closure.inside, Static.inFunction, hsignature]
    obtain ⟨-, hret, hreq, htypes⟩ := signature_eq_ok hsignature
    obtain ⟨htypes, -, hdefaults⟩ := paramTypes_eq_ok htypes
    obtain ⟨hmonoParams, hmonoBody⟩ := hmono s' (by rw [hsignature])
    rw [hparams] at hmonoBody
    have hbodyContext : cl.body.context =
        (cl.static.context.inFunction cl.definition.name s').withParams cl.definition.params := by
      rw [Closure.body, Static.context_withParams, hcontext]
    have hbodyDepth : cl.body.depth = cl.static.depth + 1 := Static.depth_withParams _ _ _ _
    refine ⟨hcontext, hreq, hdefaults, ?_, ⟨⟨c₂, ?_⟩, ?_, ?_⟩, fun hvoid => ?_⟩
    · rw [hcontext]
      exact .of_accepted (.of_declareParams htypes hparams) hmonoParams
    · rw [hbodyContext]
      exact hbody
    · rw [hbodyContext]
      exact hmonoBody
    · rw [hbodyDepth]
      exact hreturns.2
    · exact hreturns.1 fun h => hvoid (Option.some.inj (hret.symm.trans h))

/-! ## Places -/

/-- What is known at the place belongs together, and all functions that are visible are exact. -/
structure Static.Exact (S : Static) : Prop where
  lexical : S.Lexical
  functions : ∀ g cl, S.functions.find? g = some cl → cl.Exact

namespace Static.Exact

/-- At the start no function is in sight. -/
theorem initial : Static.initial.Exact :=
  ⟨.initial, fun _ _ h => nomatch h⟩

/-- A scope of its own. -/
theorem opened (h : S.Exact) : S.opened.Exact :=
  ⟨h.lexical.opened, h.functions⟩

/-- To be in a loop. -/
theorem inLoop (h : S.Exact) : S.inLoop.Exact :=
  ⟨h.lexical.inLoop, h.functions⟩

/-- A round of a loop. -/
theorem inRound (h : S.Exact) : S.inRound.Exact :=
  ⟨h.lexical.inRound, h.functions⟩

/-- A unit of a parallel block. -/
theorem inUnit (h : S.Exact) : S.inUnit.Exact :=
  ⟨h.lexical.inUnit, h.functions⟩

/-- A parameter is no function. -/
theorem withParam (h : S.Exact) (p : Param) (q : Site) : (S.withParam p q).Exact :=
  ⟨h.lexical.withParam p q, h.functions⟩

/-- Nor are several. -/
theorem withParams (h : S.Exact) (q : Site) (i : Nat) (ps : List Param) :
    (S.withParams q i ps).Exact := by
  induction ps generalizing S i with
  | nil => exact h
  | cons p ps ih => exact ih (h.withParam p _) (i + 1)

/-- Behind an exact statement: a function that it defines is one. -/
theorem after {s : Stmt} (h : S.Exact) (hs : s.Exact S) (q : Site) : (S.after q s).Exact := by
  obtain ⟨c', haccepted⟩ := hs.accepted
  refine ⟨h.lexical.after haccepted, fun g cl hg => ?_⟩
  obtain ⟨x, t, -, heq⟩ | ⟨f, t, rfl, -, heq⟩ | ⟨-, -, heq⟩ := Static.after_eq (q := q) haccepted
  · rw [heq] at hg
    exact h.functions g cl hg
  · rw [heq, NameMap.find?_insert] at hg
    split at hg
    · obtain rfl := Option.some.inj hg
      exact hs
    · exact h.functions g cl hg
  · rw [heq] at hg
    exact h.functions g cl hg

/-- The place of the definition of a visible function. -/
theorem static {g : String} (h : S.Exact) (hg : S.functions.find? g = some cl) : cl.static.Exact :=
  ⟨h.lexical.static hg, fun f cl' hf =>
    h.functions f cl' ((h.lexical.visible hg).2.2.2 f cl' hf)⟩

/-- Inside of an exact function it is in sight itself. -/
theorem inside (h : cl.static.Exact) (hcl : cl.Exact) : cl.inside.Exact := by
  refine ⟨h.lexical.inside hcl.accepted, fun g cl' hg => ?_⟩
  simp only [Closure.inside, Static.inFunction, NameMap.find?_insert] at hg
  split at hg
  · obtain rfl := Option.some.inj hg
    exact hcl
  · exact h.functions g cl' hg

end Static.Exact

end ParLang
