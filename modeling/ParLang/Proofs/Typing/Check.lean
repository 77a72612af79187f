import ParLang.Typing.Checker

/-!
# What a check does to its context

A check threads a context and may stop with a complaint. `Check.bind_eq_ok` and its neighbours say
when each building block of a check succeeds, so that a successful check comes apart into successful
parts. The other half is what a check does however it ends. Most building blocks only look at the context
(`Check.Leaves`); behind a statement the innermost scope and the function table may have changed, but
nothing else (`Check.statement_restores`), because whatever it opens it closes again.
-/

namespace ParLang

/-- A check of two steps succeeds when both do. -/
theorem Checked.bind_eq_ok {α β : Type} {x : Checked α} {f : α → Checked β} {b : β} :
    (x >>= f) = .ok b ↔ ∃ a, x = .ok a ∧ f a = .ok b := by
  cases x with
  | error e =>
    constructor
    · intro h; cases h
    · rintro ⟨_, h, _⟩; cases h
  | ok a =>
    constructor
    · intro h; exact ⟨a, rfl, h⟩
    · rintro ⟨_, h, hf⟩; cases h; exact hf

/-- A type is resolved if it is known. -/
theorem resolveType_eq_ok {type : TypeExpr} {line : Nat} {t : StaticType} :
    resolveType type line = .ok t ↔ StaticType.ofTypeExpr? type = some t := by
  rw [resolveType]
  cases StaticType.ofTypeExpr? type <;> simp [complain]

/-- A variable has the type with which it is in scope. -/
theorem variableType_eq_ok {names : Names} {line : Nat} {x : String} {t : StaticType} :
    variableType names line x = .ok t ↔ names.scopes.find? x = some t := by
  rw [variableType]
  cases names.scopes.find? x <;> simp [complain]

/-- A value may be stored if its type is accepted. -/
theorem expectAssignable_eq_ok {t found : StaticType} {line : Nat} {u : Unit} :
    expectAssignable t found line = .ok u ↔ t.accepts found := by
  rw [expectAssignable]
  split <;> simp_all [complain]

/-- A type that has to be is. -/
theorem expectType_eq_ok {role : Role} {t found : StaticType} {line : Nat} {u : Unit} :
    expectType role t found line = .ok u ↔ t = found := by
  rw [expectType]
  split <;> simp_all [complain]

namespace Context

/-- The context in a new scope. -/
def opened (c : Context) : Context :=
  { c with names.scopes := c.names.scopes.push }

/-- The context with a name declared in the innermost scope. -/
def declared (c : Context) (name : String) (t : StaticType) : Context :=
  { c with names.scopes := c.names.scopes.declare name t }

/-- The context with a function in the table. -/
def defined (c : Context) (name : String) (s : Signature) : Context :=
  { c with names.functions := c.names.functions.insert name s }

/-- The context in the body of a loop. -/
def inLoop (c : Context) : Context :=
  { c with loopDepth := c.loopDepth + 1 }

/-- The context of the parameters and the body of a function, which is in the table already. -/
def inFunction (c : Context) (name : String) (s : Signature) : Context :=
  ({ c.defined name s with function? := some ⟨name, s.returns⟩, loopDepth := 0 } : Context).opened

/-- The context of a unit of a parallel block. -/
def inUnit (c : Context) : Context :=
  ({ c with function? := none, loopDepth := 0 } : Context).opened

end Context

namespace Check

variable {α β : Type} {c c' : Context} {u : Unit}

/-! ## Success of the building blocks -/

/-- Where the first check succeeds the second one goes on in its context. -/
theorem bind_apply_ok {x : Check α} {a : α} (f : α → Check β) (h : x c = (.ok a, c')) :
    (x >>= f) c = f a c' := by
  show (match x c with | (r, c') => ExceptT.bindCont f r c') = _
  rw [h]; rfl

/-- Where it fails the failure is that of the whole. -/
theorem bind_apply_error {x : Check α} {e : SemanticError} (f : α → Check β)
    (h : x c = (.error e, c')) : (x >>= f) c = (.error e, c') := by
  show (match x c with | (r, c') => ExceptT.bindCont f r c') = _
  rw [h]; rfl

/-- A sequence succeeds if both checks do. -/
theorem bind_eq_ok {x : Check α} {f : α → Check β} {b : β} :
    (x >>= f) c = (.ok b, c') ↔ ∃ a c₁, x c = (.ok a, c₁) ∧ f a c₁ = (.ok b, c') := by
  constructor
  · intro h
    rcases hx : x c with ⟨e | a, c₁⟩
    · rw [bind_apply_error f hx] at h; cases h
    · exact ⟨a, c₁, rfl, by rw [← h, bind_apply_ok f hx]⟩
  · rintro ⟨a, c₁, hx, hf⟩
    rw [bind_apply_ok f hx, hf]

/-- To succeed in some context is to succeed. -/
theorem exists_eq_ok {x : Check α} {a : α} : (∃ c₁, x c = (.ok a, c₁)) ↔ (x c).1 = .ok a := by
  constructor
  · rintro ⟨c₁, h⟩; rw [h]
  · intro h; exact ⟨(x c).2, Prod.ext h rfl⟩

/-- What checks nothing succeeds and changes nothing. -/
theorem pure_eq_ok {a b : α} : (pure a : Check α) c = (.ok b, c') ↔ a = b ∧ c' = c := by
  constructor
  · intro h; cases h; exact ⟨rfl, rfl⟩
  · rintro ⟨rfl, rfl⟩; rfl

/-- An examination succeeds if it finds something, and changes nothing. -/
theorem examine_eq_ok {f : Context → Checked α} {a : α} :
    examine f c = (.ok a, c') ↔ f c = .ok a ∧ c' = c := by
  constructor
  · intro h; exact ⟨congrArg Prod.fst h, (congrArg Prod.snd h).symm⟩
  · rintro ⟨h, rfl⟩; exact Prod.ext h rfl

/-- A rejection never succeeds. -/
theorem not_reject_eq_ok {line : Nat} {cause : SemanticError.Cause} {a : α} :
    reject line cause c ≠ (.ok a, c') := by
  intro h; cases h

/-- A name may be declared if it is new in the innermost scope. -/
theorem declare_eq_ok {what : Declared} {name : String} {t : StaticType} {line : Nat} :
    declare what name t line c = (.ok u, c') ↔
      c.names.scopes.inner.contains name = false ∧ c' = c.declared name t := by
  rw [declare]
  cases c.names.scopes.inner.contains name with
  | true =>
    constructor
    · intro h; cases h
    · rintro ⟨h, -⟩; cases h
  | false =>
    constructor
    · intro h; exact ⟨rfl, (congrArg Prod.snd h).symm⟩
    · rintro ⟨-, rfl⟩; rfl

/-- A function may be defined. -/
theorem define_eq_ok {name : String} {s : Signature} :
    define name s c = (.ok u, c') ↔ c' = c.defined name s := by
  constructor
  · intro h; exact (congrArg Prod.snd h).symm
  · rintro rfl; rfl

/-- An expression has the type that it has to have. -/
theorem expectTyped_eq_ok {role : Role} {t : StaticType} {e : Expr} {line : Nat} :
    expectTyped role t e line c = (.ok u, c') ↔ e.typeIn c.names = .ok t ∧ c' = c := by
  rw [expectTyped, examine_eq_ok, expectExpr, Checked.bind_eq_ok]
  constructor
  · rintro ⟨⟨found, hfound, ht⟩, hc⟩
    exact ⟨by rw [hfound, expectType_eq_ok.mp ht], hc⟩
  · rintro ⟨ht, hc⟩
    exact ⟨⟨t, ht, expectType_eq_ok.mpr rfl⟩, hc⟩

/-! ## Leaving the context -/

/-- However the check ends, the context is what it was. -/
def Leaves (x : Check α) : Prop :=
  ∀ c, (x c).2 = c

namespace Leaves

variable {x : Check α} {f : α → Check β}

/-- What checks nothing leaves the context. -/
theorem pure (a : α) : Leaves (Pure.pure a : Check α) := fun _ => rfl

/-- So does an examination. -/
theorem examine (f : Context → Checked α) : Leaves (Check.examine f) := fun _ => rfl

/-- So does a rejection. -/
theorem reject (line : Nat) (cause : SemanticError.Cause) :
    Leaves (Check.reject line cause : Check α) := fun _ => rfl

/-- What leaves the context is told by its result. -/
theorem apply_eq (hx : Leaves x) (c : Context) : x c = ((x c).1, c) :=
  Prod.ext rfl (hx c)

/-- So it succeeds in the context where it began. -/
theorem eq_ok (hx : Leaves x) {a : α} : x c = (.ok a, c') ↔ (x c).1 = .ok a ∧ c' = c := by
  rw [hx.apply_eq c, Prod.mk.injEq, @eq_comm _ c]

/-- What holds of the context, and behind the second check if the first has succeeded, holds behind
both. -/
theorem bind_snd {P : Context → Prop} (hx : Leaves x) (hc : P c)
    (hf : ∀ a, x c = (.ok a, c) → P (f a c).2) : P ((x >>= f) c).2 := by
  rcases h : (x c).1 with e | a
  · rwa [bind_apply_error f (h ▸ hx.apply_eq c)]
  · have hok : x c = (.ok a, c) := h ▸ hx.apply_eq c
    rw [bind_apply_ok f hok]
    exact hf a hok

/-- A sequence leaves the context if both checks do. -/
theorem bind (hx : Leaves x) (hf : ∀ a, Leaves (f a)) : Leaves (x >>= f) :=
  fun c => hx.bind_snd (P := (· = c)) rfl fun a _ => hf a c

/-- An assignment leaves the context. -/
theorem assignment (a : Assignment) : Leaves (Check.assignment a) := by
  refine .bind ?_ fun _ => .bind (.examine _) fun _ => .examine _
  rcases a.target with ⟨l, name⟩ | ⟨base, position⟩
  · exact .examine _
  · refine .bind (.examine _) fun b => .bind (.examine _) fun _ => ?_
    cases b.element? with
    | none => exact .reject _ _
    | some t => exact .pure _

/-- So do the host and the port of a channel. -/
theorem endpoint (host port : Expr) (line : Nat) : Leaves (Check.endpoint host port line) :=
  .bind (.examine _) fun _ => .examine _

end Leaves

/-! ## Restoring the context -/

/-- Only the innermost scope and the function table may differ. -/
structure Restores (c c' : Context) : Prop where
  outer : c'.names.scopes.outer = c.names.scopes.outer
  function? : c'.function? = c.function?
  loopDepth : c'.loopDepth = c.loopDepth

/-- The context is as it was. -/
theorem Restores.refl (c : Context) : Restores c c := ⟨rfl, rfl, rfl⟩

/-- To restore the context is transitive. -/
theorem Restores.trans {c₁ c₂ c₃ : Context} (h : Restores c₁ c₂) (h' : Restores c₂ c₃) :
    Restores c₁ c₃ :=
  ⟨h'.outer.trans h.outer, h'.function?.trans h.function?, h'.loopDepth.trans h.loopDepth⟩

/-- However the check ends, it has restored the context. -/
def Restoring (x : Check α) : Prop :=
  ∀ c, Restores c (x c).2

/-- What leaves the context restores it. -/
theorem Leaves.restoring {x : Check α} (hx : Leaves x) : Restoring x := by
  intro c
  rw [hx c]
  exact .refl c

/-- What checks nothing restores the context. -/
theorem restoring_pure (a : α) : Restoring (pure a) := (Leaves.pure a).restoring

/-- A sequence restores the context if both checks do. -/
theorem Restoring.bind {x : Check α} {f : α → Check β} (hx : Restoring x)
    (hf : ∀ a, Restoring (f a)) : Restoring (x >>= f) := by
  intro c
  have hc := hx c
  rcases h : x c with ⟨e | a, c₁⟩
  · rw [bind_apply_error f h]
    rwa [h] at hc
  · rw [bind_apply_ok f h]
    rw [h] at hc
    exact hc.trans (hf a c₁)

/-- An examination restores the context. -/
theorem restoring_examine (f : Context → Checked α) : Restoring (examine f) :=
  (Leaves.examine f).restoring

/-- So does a rejection. -/
theorem restoring_reject (line : Nat) (cause : SemanticError.Cause) :
    Restoring (reject line cause : Check α) := (Leaves.reject line cause).restoring

/-- A declaration adds to the innermost scope only. -/
theorem restoring_declare (what : Declared) (name : String) (t : StaticType) (line : Nat) :
    Restoring (declare what name t line) := by
  intro c
  rw [declare]
  split
  · exact .refl c
  · exact ⟨rfl, rfl, rfl⟩

/-- A definition adds no variable. -/
theorem restoring_define (name : String) (s : Signature) : Restoring (define name s) :=
  fun _ => ⟨rfl, rfl, rfl⟩

/-- A nested scope leads back to the very context, whatever was declared and defined in it. -/
theorem Leaves.nested {x : Check Unit} (hx : Restoring x) : Leaves (nested x) := by
  intro c
  have h := hx c.opened
  have hpop : (x c.opened).2.names.scopes.pop = c.names.scopes := by
    rw [Scopes.pop, h.outer]; rfl
  show { (x c.opened).2 with names := ⟨(x c.opened).2.names.scopes.pop, c.names.functions⟩ } = c
  rw [hpop]
  obtain ⟨-, hf, hl⟩ := h
  cases c
  simp only [Context.opened] at hf hl
  simp [hf, hl, Context.opened]

/-- What leaves the context leaves it in a loop. -/
theorem Leaves.looped {x : Check Unit} (hx : Leaves x) : Leaves (looped x) := by
  intro c
  have h := hx c.inLoop
  show { (x c.inLoop).2 with loopDepth := c.loopDepth } = c
  rw [h]
  rfl

/-- What leaves the context leaves it in a function. -/
theorem Leaves.within {x : Check Unit} (hx : Leaves x) (f? : Option Enclosing) :
    Leaves (within f? x) := by
  intro c
  have h := hx { c with function? := f?, loopDepth := 0 }
  show { (x { c with function? := f?, loopDepth := 0 }).2 with
    function? := c.function?, loopDepth := c.loopDepth } = c
  rw [h]

/-- What restores the context restores it in a scope of its own. -/
theorem Restoring.nested {x : Check Unit} (hx : Restoring x) : Restoring (nested x) :=
  (Leaves.nested hx).restoring

/-- So it does in a loop. -/
theorem Restoring.looped {x : Check Unit} (hx : Restoring x) : Restoring (looped x) :=
  fun c => ⟨(hx c.inLoop).outer, (hx c.inLoop).function?, rfl⟩

/-- So it does in a function. -/
theorem Restoring.within {x : Check Unit} (f? : Option Enclosing) (hx : Restoring x) :
    Restoring (within f? x) :=
  fun c => ⟨(hx { c with function? := f?, loopDepth := 0 }).outer, rfl, rfl⟩

/-- A check in a scope of its own succeeds if it does in the opened context, and then changes nothing. -/
theorem nested_eq_ok {x : Check Unit} (hx : Restoring x) :
    nested x c = (.ok u, c') ↔ (∃ c₁, x c.opened = (.ok (), c₁)) ∧ c' = c := by
  rw [(Leaves.nested hx).eq_ok, exists_eq_ok]
  rfl

/-- A check in a loop succeeds in a context that is in one. -/
theorem looped_eq_ok {x : Check Unit} (h : looped x c = (.ok u, c')) :
    ∃ c₁, x c.inLoop = (.ok (), c₁) :=
  exists_eq_ok.mpr (congrArg Prod.fst h)

/-- The same for a scope of its own in a loop. -/
theorem looped_nested_eq_ok {x : Check Unit} (hx : Restoring x) :
    looped (nested x) c = (.ok u, c') ↔ (∃ c₁, x c.inLoop.opened = (.ok (), c₁)) ∧ c' = c := by
  rw [(Leaves.nested hx).looped.eq_ok, exists_eq_ok]
  rfl

/-- The same for a scope of its own in a function or outside of all. -/
theorem within_nested_eq_ok {x : Check Unit} {f? : Option Enclosing} (hx : Restoring x) :
    within f? (nested x) c = (.ok u, c') ↔
      (∃ c₁, x ({ c with function? := f?, loopDepth := 0 } : Context).opened = (.ok (), c₁)) ∧
        c' = c := by
  rw [((Leaves.nested hx).within f?).eq_ok, exists_eq_ok]
  rfl

/-- To expect a type restores the context. -/
theorem restoring_expectTyped (role : Role) (t : StaticType) (e : Expr) (line : Nat) :
    Restoring (expectTyped role t e line) := restoring_examine _

/-- An assignment restores the context. -/
theorem restoring_assignment (a : Assignment) : Restoring (assignment a) :=
  (Leaves.assignment a).restoring

/-- Parameters add to the innermost scope only. -/
theorem restoring_declareParams : ∀ (ps : List Param) (ts : List StaticType),
    Restoring (declareParams ps ts)
  | [], _ => restoring_pure ()
  | _ :: _, [] => restoring_pure ()
  | p :: ps, t :: ts => by
    have hrest : Restoring (declare .variable p.name t p.line >>= fun _ => declareParams ps ts) :=
      .bind (restoring_declare _ _ _ _) fun _ => restoring_declareParams ps ts
    rw [declareParams]
    cases p.default? with
    | none => exact hrest
    | some e => exact .bind (restoring_examine _) fun _ => .bind (restoring_examine _) fun _ => hrest

/-- The host and the port of a channel restore the context. -/
theorem restoring_endpoint (host port : Expr) (line : Nat) : Restoring (endpoint host port line) :=
  (Leaves.endpoint host port line).restoring

mutual

/-- **A check restores its context**, however it ends. -/
theorem statement_restores : ∀ s : Stmt, Restoring (statement s)
  | .declare .. =>
    .bind (restoring_examine _) fun _ => .bind (restoring_examine _) fun _ =>
      .bind (restoring_examine _) fun _ => restoring_declare _ _ _ _
  | .assign a => restoring_assignment a
  | .function ⟨_, _, params, _, ⟨_, body⟩⟩ =>
    .bind (restoring_examine _) fun _ => .bind (restoring_define _ _) fun _ =>
      (Restoring.bind (restoring_declareParams params _)
        fun _ => statements_restore body).nested.within _
  | .return .. => restoring_examine _
  | .branch _ _ ⟨_, yes⟩ none =>
    .bind (restoring_expectTyped _ _ _ _) fun _ => (statements_restore yes).nested
  | .branch _ _ ⟨_, yes⟩ (some ⟨_, no⟩) =>
    .bind (restoring_expectTyped _ _ _ _) fun _ =>
      .bind (statements_restore yes).nested fun _ => (statements_restore no).nested
  | .while _ _ ⟨_, body⟩ =>
    .bind (restoring_expectTyped _ _ _ _) fun _ => (statements_restore body).nested.looped
  | .for _ init _ update ⟨_, body⟩ => by
    rw [statement]
    exact (Restoring.bind (statement_restores init) fun _ =>
      .bind (restoring_expectTyped _ _ _ _) fun _ =>
        .bind (restoring_assignment update) fun _ => (statements_restore body).looped).nested
  | .break _ => restoring_examine _
  | .continue _ => restoring_examine _
  | .seq ⟨_, body⟩ => (statements_restore body).nested
  | .block ⟨_, body⟩ => (statements_restore body).nested
  | .par ⟨_, body⟩ => units_restore body
  | .expr .. => .bind (restoring_examine _) fun _ => restoring_pure _
  | .server _ =>
    .bind (restoring_examine _) fun _ => .bind (restoring_expectTyped _ _ _ _) fun _ =>
      restoring_endpoint _ _ _
  | .client _ => .bind (restoring_endpoint _ _ _) fun _ => restoring_declare _ _ _ _

/-- So do statements in sequence. -/
theorem statements_restore : ∀ ss : List Stmt, Restoring (statements ss)
  | [] => restoring_pure ()
  | s :: rest => .bind (statement_restores s) fun _ => statements_restore rest

/-- So do the units of a block. -/
theorem units_restore : ∀ ss : List Stmt, Restoring (units ss)
  | [] => restoring_pure ()
  | s :: rest => by
    rw [units]
    cases jumpOf? s with
    | none => exact .bind ((statement_restores s).nested.within _) fun _ => units_restore rest
    | some j => exact .bind (restoring_reject _ _) fun _ => units_restore rest

end

end Check

end ParLang
