import ParLang.Proofs.Soundness.Operations

/-!
# The interpreter is sound

Every function of the interpreter is sound on what follows the typing rules. They call each other
with a smaller budget, so `SoundAt` collects what is to be shown of all of them at one budget, and each
is proved for the next budget from all of them at this one. `soundAt` closes the induction.
-/

namespace ParLang

variable {G : Globals} {H : HeapTyping} {m : Machine} {names : Names} {d n : Nat}

/-! ## How statements end -/

/-- What a statement may end with in the context `c`: with a jump only where there is a place to go,
with a value of the function's type, and without a jump only if it does not surely return. -/
def Flow.Allowed (H : HeapTyping) (c : Context) (surelyReturns : Bool) : Flow → Prop
  | .normal => surelyReturns = false
  | .break | .continue => c.loopDepth ≠ 0
  | .return v => ∃ f, c.function? = some f ∧ v.HasType H f.returns

/-- The types of a statement's end are those of its function, wherever in the function it is. -/
theorem Flow.Allowed.of_eq {c c' : Context} {b : Bool} {flow : Flow} (h : flow.Allowed H c b)
    (hfunction : c'.function? = c.function?) (hloop : c'.loopDepth = c.loopDepth) :
    flow.Allowed H c' b := by
  cases flow with
  | normal => exact h
  | «break» => exact fun h' => h (hloop.symm.trans h')
  | «continue» => exact fun h' => h (hloop.symm.trans h')
  | «return» v =>
    obtain ⟨f, hf, hv⟩ := h
    exact ⟨f, hfunction.trans hf, hv⟩

/-- A statement that need not return may end as one that must. -/
theorem Flow.Allowed.of_le {c : Context} {b b' : Bool} {flow : Flow} (h : flow.Allowed H c b)
    (hb : b' → b) : flow.Allowed H c b' := by
  cases flow with
  | normal =>
    have hb' : b' ≠ true := fun h' => by
      rw [show b = false from h] at hb
      exact Bool.noConfusion (hb h')
    exact Bool.eq_false_iff.mpr hb'
  | «break» => exact h
  | «continue» => exact h
  | «return» v => exact h

/-- A statement leaves the loops and the function around it as they were. -/
theorem StmtTyped.restores {c c' : Context} {s : Stmt} (h : StmtTyped G d c s c') :
    c'.function? = c.function? ∧ c'.loopDepth = c.loopDepth := by
  cases h <;> exact ⟨rfl, rfl⟩

/-- So do parameters. -/
theorem ParamsTyped.restores {c c' : Context} {ps : List Param} {ts : List StaticType}
    (h : ParamsTyped G c ps ts c') : c'.function? = c.function? ∧ c'.loopDepth = c.loopDepth := by
  induction h with
  | nil => exact ⟨rfl, rfl⟩
  | cons _ _ _ ih => exact ih

/-- Each parameter has a type. -/
theorem ParamsTyped.length_eq {c c' : Context} {ps : List Param} {ts : List StaticType}
    (h : ParamsTyped G c ps ts c') : ps.length = ts.length := by
  induction h with
  | nil => rfl
  | cons _ _ _ ih => simp [ih]

/-- A signature tells how many arguments are needed and how many may be given. -/
theorem FunctionTyped.params_length {c : Context} {f : FunctionDef Stmt} {s : Signature}
    (h : FunctionTyped G d c f s) : s.required = f.required ∧ f.params.length = s.params.length := by
  cases h with
  | intro _ hreq _ hparams _ _ => exact ⟨hreq, hparams.length_eq⟩

/-! ## The induction -/

/-- Every function of the interpreter is sound at the budget `n`. -/
structure SoundAt (G : Globals) (n : Nat) : Prop where
  eval : ∀ {H m d names e t}, HasType names e t → Fits G m d names →
    Sound G H m (Exec.eval n e) fun H' v _ => v.HasType H' t
  evalAll : ∀ {H m d names es ts}, List.Forall₂ (HasType names) es ts → Fits G m d names →
    Sound G H m (Exec.evalAll n es) fun H' vs _ => List.Forall₂ (Value.HasType H') vs ts
  invoke : ∀ {H m d c f s args line}, FunctionTyped G d c f s →
    Fits G m (d + 1) (c.inFunction f.name s).names → f.required ≤ args.length →
    List.Forall₂ (Value.HasType H) args (s.params.take args.length) →
    Sound G H m (Exec.invoke n f args line) fun H' v _ => v.HasType H' s.returns
  bindParams : ∀ {H m d c c' function ps ts args line}, ParamsTyped G c ps ts c' →
    Fits G m d c.names → (∀ p ∈ ps.drop args.length, p.default?.isSome) →
    List.Forall₂ (Value.HasType H) args (ts.take args.length) →
    Sound G H m (Exec.bindParams n function ps args line) fun _ _ m' => Fits G m' d c'.names
  run : ∀ {H m d c c' s}, StmtTyped G d c s c' → Fits G m d c.names →
    Sound G H m (Exec.run n s) fun H' flow m' =>
      Fits G m' d c'.names ∧ flow.Allowed H' c s.surelyReturns
  runAll : ∀ {H m d c c' ss}, StmtsTyped G d c ss c' → Fits G m d c.names →
    Sound G H m (Exec.runAll n ss) fun H' flow _ => flow.Allowed H' c (anyReturns ss)
  test : ∀ {H m d names e}, HasType names e .bool → Fits G m d names →
    Sound G H m (Exec.test n e) fun _ _ _ => True
  assign : ∀ {H m d names a}, AssignTyped names a → Fits G m d names →
    Sound G H m (Exec.assign n a) fun _ _ _ => True
  whileLoop : ∀ {H m d c c' condition body}, HasType c.names condition .bool →
    StmtsTyped G (d + 1) c.inLoop.opened body c' → Fits G m d c.names →
    Sound G H m (Exec.whileLoop n condition body) fun H' flow _ => flow.Allowed H' c false
  forLoop : ∀ {H m d c c' condition update body}, HasType c.names condition .bool →
    AssignTyped c.names update → StmtsTyped G (d + 1) c.inLoop body c' → Fits G m d c.names →
    Sound G H m (Exec.forLoop n condition update body) fun H' flow _ => flow.Allowed H' c false

/-! ## Expressions -/

/-- Expressions in a list, one after the other: the types of the first values hold while the others are
evaluated. -/
theorem SoundAt.evalAll_succ {es : List Expr} {ts : List StaticType} (ih : SoundAt G n)
    (hes : List.Forall₂ (HasType names) es ts) (hfits : Fits G m d names) :
    Sound G H m (Exec.evalAll (n + 1) es) fun H' vs _ => List.Forall₂ (Value.HasType H') vs ts := by
  cases hes with
  | nil => exact .pure .nil
  | cons he hrest =>
    refine .bind (ih.eval he hfits) fun H₁ v m₁ _ hg₁ hv => ?_
    refine .bind (ih.evalAll hrest (hfits.grows hg₁)) fun H₂ vs m₂ hH₂ _ hvs => ?_
    exact .pure (.cons (hv.mono hH₂) hvs)

/-- Values in a list keep their types when there are more arrays. -/
theorem hasType_forall₂_mono {H' : HeapTyping} {vs : List Value} {ts : List StaticType} (hH : H ≤ H')
    (h : List.Forall₂ (Value.HasType H) vs ts) : List.Forall₂ (Value.HasType H') vs ts :=
  h.imp fun _ _ hv => hv.mono hH

/-- A body that has to return ends with a value of the type that its function returns. -/
theorem Flow.Allowed.value {c : Context} {s : Signature} {name : String} {body : List Stmt}
    {flow : Flow} (h : flow.Allowed H c (anyReturns body))
    (hfunction : c.function? = some ⟨name, s.returns⟩) (hloop : c.loopDepth = 0)
    (hreturns : s.returns ≠ .void → anyReturns body) :
    Sound G H m (match flow with
      | .return v => pure v
      | _ => pure .void) fun H' v _ => v.HasType H' s.returns := by
  cases flow with
  | normal =>
    have hvoid : s.returns = .void := by
      by_contra hne
      have := hreturns hne
      rw [show anyReturns body = false from h] at this
      cases this
    exact .pure (hvoid ▸ .void)
  | «break» => exact absurd hloop h
  | «continue» => exact absurd hloop h
  | «return» v =>
    obtain ⟨f, hf, hv⟩ := h
    obtain rfl := Option.some.inj (hfunction.symm.trans hf)
    exact .pure hv

/-- The body of a function, in a scope of its own, ends with a value of the type of the call. -/
theorem SoundAt.invoke_succ {c : Context} {f : FunctionDef Stmt} {s : Signature} {args : List Value}
    {line : Nat} (ih : SoundAt G n) (hf : FunctionTyped G d c f s)
    (hfits : Fits G m (d + 1) (c.inFunction f.name s).names) (hreq : f.required ≤ args.length)
    (hargs : List.Forall₂ (Value.HasType H) args (s.params.take args.length)) :
    Sound G H m (Exec.invoke (n + 1) f args line) fun H' v _ => v.HasType H' s.returns := by
  cases hf with
  | intro _ _ hdefaults hparams hbody hreturns =>
    have hdefaults : ∀ p ∈ f.params.drop args.length, p.default?.isSome := fun p hp =>
      hdefaults p (List.drop_subset_drop_left _ hreq hp)
    obtain ⟨hfunction, hloop⟩ := hparams.restores
    refine .bind (ih.bindParams hparams hfits hdefaults hargs) fun H₁ _ m₁ _ _ hfits₁ => ?_
    refine .bind (ih.runAll hbody hfits₁) fun H₂ flow m₂ _ _ hflow => ?_
    exact hflow.value hfunction hloop hreturns

/-- Parameters are declared with their types, from the arguments and then from the defaults. -/
theorem SoundAt.bindParams_succ {c c' : Context} {function : String} {ps : List Param}
    {ts : List StaticType} {args : List Value} {line : Nat} (ih : SoundAt G n)
    (hps : ParamsTyped G c ps ts c') (hfits : Fits G m d c.names)
    (hdefaults : ∀ p ∈ ps.drop args.length, p.default?.isSome)
    (hargs : List.Forall₂ (Value.HasType H) args (ts.take args.length)) :
    Sound G H m (Exec.bindParams (n + 1) function ps args line)
      fun _ _ m' => Fits G m' d c'.names := by
  cases hps with
  | nil => exact .pure hfits
  | @cons c p ps t ts _ hdefault hx hrest =>
    cases args with
    | cons v vs =>
      obtain ⟨hv, hvs⟩ := List.forall₂_cons.mp hargs
      refine .bind (.declare hx hv) fun H₁ _ m₁ hH₁ hg₁ hbound => ?_
      exact ih.bindParams hrest ((hfits.grows hg₁).declared hbound hx) hdefaults
        (hasType_forall₂_mono hH₁ hvs)
    | nil =>
      obtain ⟨e, he⟩ := Option.isSome_iff_exists.mp (hdefaults p (by simp))
      rw [Exec.bindParams_default, he]
      refine .bind (ih.eval (hdefault e he) hfits) fun H₁ v m₁ _ hg₁ hv => ?_
      refine .bind (.declare hx hv) fun H₂ _ m₂ _ hg₂ hbound => ?_
      refine ih.bindParams hrest ((hfits.grows (hg₁.trans hg₂)).declared hbound hx) ?_ .nil
      exact fun p' hp' => hdefaults p' (by simpa using Or.inr hp')

/-- A call of a function of the program. -/
theorem SoundAt.call {line : Nat} {callee : String} {args : List Expr} {s : Signature}
    (ih : SoundAt G n) (hf : names.functions.find? callee = some s) (hreq : s.required ≤ args.length)
    (hargs : List.Forall₂ (HasType names) args (s.params.take args.length))
    (hb : Builtin.ofName? callee = none) (hfits : Fits G m d names) :
    Sound G H m (Exec.eval (n + 1) (.call line callee args))
      fun H' v _ => v.HasType H' s.returns := by
  obtain ⟨f, c, hfind, rfl, hpos, hd, htyped, hnames, hself⟩ := (hfits.callable callee s hf).inv
  rw [Exec.eval_call hb]
  refine .bind (Exec.functionNamed_sound hfind) ?_
  rintro H₀ g _ hH₀ - ⟨rfl, rfl⟩
  refine .bind (ih.evalAll hargs hfits) fun H₁ vs m₁ _ hg₁ hvs => ?_
  obtain ⟨hrequired, hparams⟩ := htyped.params_length
  have hlength : vs.length = args.length := hvs.length_eq.trans hargs.length_eq.symm
  have hle : args.length ≤ s.params.length := by
    have := hargs.length_eq
    rw [List.length_take] at this
    omega
  have hcount : ¬(vs.length < g.definition.required ∨ g.definition.params.length < vs.length) := by
    omega
  simp only [hcount, if_false]
  have hd₁ : g.depth ≤ m₁.scopes.depth := by
    rw [(hfits.grows hg₁).depth]
    exact hd
  refine .bind .pause ?_
  rintro H₂ _ _ hH₂ - rfl
  refine .inCall hpos hd₁ (ih.invoke htyped ?_ (by omega) ?_)
  · exact Fits.inFunction (hnames.grows hg₁)
      (hself.transfer le_rfl (fun _ _ _ => hg₁.scopes.boundBelow) hg₁.functions) hpos hd₁
  · rw [hlength]
    exact hasType_forall₂_mono hH₂ hvs

/-- The logical operators evaluate their right operand only if the left one leaves the value open. -/
theorem SoundAt.logical {line : Nat} {op : BinaryOp} {left right : Expr} (ih : SoundAt G n)
    (hl : HasType names left .bool) (hr : HasType names right .bool) (hfits : Fits G m d names) :
    Sound G H m (do
      let l ← Exec.expectLogical op line (← Exec.eval n left)
      if l = (op == .or) then return Value.bool l
      else return .bool (← Exec.expectLogical op line (← Exec.eval n right)))
      fun H' v _ => v.HasType H' .bool := by
  refine .bind (ih.eval hl hfits) fun H₁ v m₁ _ hg₁ hv => ?_
  refine .bind (Exec.expectLogical_sound hv) fun H₂ l m₂ _ hg₂ _ => ?_
  split
  · exact .pure .bool
  · refine .bind (ih.eval hr (hfits.grows (hg₁.trans hg₂))) fun H₃ v' m₃ _ _ hv' => ?_
    exact .bind (Exec.expectLogical_sound hv') fun _ _ _ _ _ _ => .pure .bool

/-- The other operators evaluate both operands. -/
theorem SoundAt.strict {line : Nat} {op : BinaryOp} {left right : Expr} {l r t : StaticType}
    (ih : SoundAt G n) (hl : HasType names left l) (hr : HasType names right r)
    (ht : binaryType? op l r = some t) (hop : op ≠ .and ∧ op ≠ .or) (hfits : Fits G m d names) :
    Sound G H m (do
      let l ← Exec.eval n left
      let r ← Exec.eval n right
      Exec.binaryValue n op l r line) fun H' v _ => v.HasType H' t := by
  refine .bind (ih.eval hl hfits) fun H₁ lv m₁ _ hg₁ hlv => ?_
  refine .bind (ih.eval hr (hfits.grows hg₁)) fun H₂ rv m₂ hH₂ _ hrv => ?_
  exact Exec.binaryValue_sound ht hop (hlv.mono hH₂) hrv

/-- An expression gives a value of its type. -/
theorem SoundAt.eval_succ {e : Expr} {t : StaticType} (ih : SoundAt G n) (he : HasType names e t)
    (hfits : Fits G m d names) :
    Sound G H m (Exec.eval (n + 1) e) fun H' v _ => v.HasType H' t := by
  cases he with
  | number => exact .pure .number
  | text => exact .pure .text
  | truth => exact .pure .bool
  | ident hx => exact Exec.variableValue_sound hfits hx
  | @binary _ op _ _ l r _ hl hr ht =>
    rw [Exec.eval_binary]
    split
    · next hop =>
      obtain rfl | rfl := hop <;> cases binaryType?_eq_some_iff.mp ht <;> exact ih.logical hl hr hfits
    · next hop => exact ih.strict hl hr ht (not_or.mp hop) hfits
  | unary he =>
    exact .bind (ih.eval he hfits) fun _ _ _ _ _ hv => Exec.unaryValue_sound hv
  | builtin hb hargs ht =>
    rw [Exec.eval_builtin hb]
    exact .bind (ih.evalAll hargs hfits) fun _ _ _ _ _ hvs => Exec.callBuiltin_sound ht hvs
  | call hb hf hreq hargs => exact ih.call hf hreq hargs hb hfits
  | index hb hp ht =>
    refine .bind (ih.eval hb hfits) fun H₁ bv m₁ _ hg₁ hbv => ?_
    refine .bind (ih.eval hp (hfits.grows hg₁)) fun H₂ pv m₂ hH₂ _ hpv => ?_
    refine .bind (Exec.expectNumber_sound hpv) fun H₃ raw m₃ hH₃ _ _ => ?_
    exact Exec.indexValue_sound (hbv.mono (hH₂.trans hH₃)) ht
  | @array _ items element _ hitems ht =>
    have hes : List.Forall₂ (HasType names) items (items.map fun _ => element) :=
      List.forall₂_map_right_iff.mpr (List.forall₂_same.mpr hitems)
    refine .bind (ih.evalAll hes hfits) fun H₁ vs m₁ _ _ hvs => ?_
    exact .allocate ht (forall_mem_of_forall₂ hvs (by simp))

/-! ## Statements -/

/-- A condition is a truth value. -/
theorem SoundAt.test_succ {e : Expr} (ih : SoundAt G n) (he : HasType names e .bool)
    (hfits : Fits G m d names) : Sound G H m (Exec.test (n + 1) e) fun _ _ _ => True := by
  refine .bind (ih.eval he hfits) fun H₁ v m₁ _ _ hv => ?_
  exact (Exec.expectCondition_sound hv).weaken fun _ _ _ _ _ _ => trivial

/-- A value is stored where values of its type are. -/
theorem SoundAt.assign_succ {a : Assignment} (ih : SoundAt G n) (ha : AssignTyped names a)
    (hfits : Fits G m d names) : Sound G H m (Exec.assign (n + 1) a) fun _ _ _ => True := by
  cases ha with
  | «variable» hx hv =>
    refine .bind (ih.eval hv hfits) fun H₁ v m₁ _ hg₁ hv => ?_
    exact Exec.assignVariable_sound (hfits.grows hg₁) hx hv
  | cell hb hp ht hv =>
    refine .bind (ih.eval hb hfits) fun H₁ bv m₁ _ hg₁ hbv => ?_
    obtain ⟨h, rfl, hh⟩ := hbv.element ht
    refine .bind (ih.eval hp (hfits.grows hg₁)) fun H₂ pv m₂ hH₂ hg₂ hpv => ?_
    refine .bind (Exec.expectNumber_sound hpv) fun H₃ raw m₃ hH₃ hg₃ _ => ?_
    refine .bind (ih.eval hv (hfits.grows (hg₁.trans (hg₂.trans hg₃))))
      fun H₄ v m₄ hH₄ _ hv => ?_
    exact Exec.storeCell_sound (((hH₂.trans hH₃).trans hH₄) _ _ hh) hv

/-- The statements of a block, in a scope of their own. -/
theorem SoundAt.block {c c' c₁ : Context} {ss : List Stmt} (ih : SoundAt G n)
    (hss : StmtsTyped G (d + 1) c₁ ss c') (hfits : Fits G m d c₁.names)
    (hfunction : c.function? = c₁.function?) (hloop : c.loopDepth = c₁.loopDepth) :
    Sound G H m (Exec.inScope (Exec.runAll n ss))
      fun H' flow _ => flow.Allowed H' c (anyReturns ss) := by
  refine .inScope ((ih.runAll hss hfits.push).weaken ?_) fun _ _ _ _ h => h
  exact fun _ _ _ _ _ hflow => hflow.of_eq hfunction hloop

/-- What the body of a loop may end with, seen from outside of the loop. -/
theorem Flow.Allowed.of_body {c c₁ : Context} {b : Bool} {v : Value}
    (h : Flow.Allowed H c₁ b (.return v)) (hfunction : c₁.function? = c.function?) :
    Flow.Allowed H c false (.return v) := by
  obtain ⟨f, hf, hv⟩ := h
  exact ⟨f, hfunction.symm.trans hf, hv⟩

/-- A loop: the names that it stands in are there in each of its rounds. -/
theorem SoundAt.whileLoop_succ {c c' : Context} {condition : Expr} {body : List Stmt}
    (ih : SoundAt G n) (hc : HasType c.names condition .bool)
    (hbody : StmtsTyped G (d + 1) c.inLoop.opened body c') (hfits : Fits G m d c.names) :
    Sound G H m (Exec.whileLoop (n + 1) condition body)
      fun H' flow _ => flow.Allowed H' c false := by
  refine .bind .pause ?_
  rintro H₁ _ _ - - rfl
  refine .bind (ih.test hc hfits) fun H₂ holds m₂ _ hg₂ _ => ?_
  have hfits₂ := hfits.grows hg₂
  cases holds with
  | false => exact .pure rfl
  | true =>
    refine .bind (ih.block (c := c.inLoop.opened) hbody hfits₂.opened rfl rfl)
      fun H₃ flow m₃ _ hg₃ hflow => ?_
    cases flow with
    | «break» => exact .pure rfl
    | «return» v => exact .pure (hflow.of_body rfl)
    | normal => exact ih.whileLoop hc hbody (hfits₂.grows hg₃)
    | «continue» => exact ih.whileLoop hc hbody (hfits₂.grows hg₃)

/-- A loop with an update, which stands in the scope of the first statement. -/
theorem SoundAt.forLoop_succ {c c' : Context} {condition : Expr} {update : Assignment}
    {body : List Stmt} (ih : SoundAt G n) (hc : HasType c.names condition .bool)
    (hu : AssignTyped c.names update) (hbody : StmtsTyped G (d + 1) c.inLoop body c')
    (hfits : Fits G m d c.names) :
    Sound G H m (Exec.forLoop (n + 1) condition update body)
      fun H' flow _ => flow.Allowed H' c false := by
  refine .bind .pause ?_
  rintro H₁ _ _ - - rfl
  refine .bind (ih.test hc hfits) fun H₂ holds m₂ _ hg₂ _ => ?_
  have hfits₂ := hfits.grows hg₂
  have hnext : ∀ {H m₃}, m₂.Grows m₃ → Sound G H m₃ (do
      Exec.assign n update
      Exec.forLoop n condition update body) fun H' flow _ => flow.Allowed H' c false := by
    intro H m₃ hg₃
    have hfits₃ := hfits₂.grows hg₃
    exact .bind (ih.assign hu hfits₃) fun _ _ _ _ hg₄ _ =>
      ih.forLoop hc hu hbody (hfits₃.grows hg₄)
  cases holds with
  | false => exact .pure rfl
  | true =>
    refine .bind (ih.block (c := c.inLoop) hbody hfits₂ rfl rfl) fun H₃ flow m₃ _ hg₃ hflow => ?_
    cases flow with
    | «break» => exact .pure rfl
    | «return» v => exact .pure (hflow.of_body rfl)
    | normal => exact hnext hg₃
    | «continue» => exact hnext hg₃

/-- Statements in sequence, up to the one that does not end normally. -/
theorem SoundAt.runAll_succ {c c' : Context} {ss : List Stmt} (ih : SoundAt G n)
    (hss : StmtsTyped G d c ss c') (hfits : Fits G m d c.names) :
    Sound G H m (Exec.runAll (n + 1) ss) fun H' flow _ => flow.Allowed H' c (anyReturns ss) := by
  cases hss with
  | nil => exact .pure rfl
  | @cons _ _ s rest c₁ _ hs hrest =>
    obtain ⟨hfunction, hloop⟩ := hs.restores
    refine .bind (ih.run hs hfits) fun H₁ flow m₁ _ _ ⟨hfits₁, hflow⟩ => ?_
    cases flow with
    | normal =>
      refine (ih.runAll hrest hfits₁).weaken fun H' flow' _ _ _ hflow' => ?_
      rw [anyReturns, show s.surelyReturns = false from hflow, Bool.false_or]
      exact hflow'.of_eq hfunction.symm hloop.symm
    | «break» => exact .pure hflow
    | «continue» => exact .pure hflow
    | «return» v => exact .pure hflow

/-- What the checker sees before a statement that declares nothing it sees behind it, too. -/
theorem Sound.fits {α : Type} {x : Exec α} {Q : HeapTyping → α → Prop}
    (h : Sound G H m x fun H' a _ => Q H' a) (hfits : Fits G m d names) :
    Sound G H m x fun H' a m' => Fits G m' d names ∧ Q H' a :=
  h.weaken fun _ _ _ _ hg hQ => ⟨hfits.grows hg, hQ⟩

/-- A definition adds a callable function to the machine, or finds it there. -/
theorem Sound.define {c : Context} {f : FunctionDef Stmt} {s : Signature}
    (hf : FunctionTyped G d c f s) (hfits : Fits G m d c.names) :
    Sound G H m (Exec.define f) fun _ _ m' => Fits G m' d (c.defined f.name s).names := by
  have hmem : (⟨f, m.scopes.depth⟩ : Function) ∈ G.functions := by
    rw [hfits.depth]
    cases hf with
    | intro hmem _ _ _ _ _ => exact hmem
  refine .of_typed fun hm => ?_
  have hgrows : m.Grows
      { m with functions := m.functions.insert f.name ⟨f, m.scopes.depth⟩ } := by
    refine ⟨Scopes.Grows.refl _, fun name g hg => ?_⟩
    rw [NameMap.find?_insert]
    split
    · next hname =>
      -- An older definition of the name is this one, from an earlier round or call.
      obtain ⟨hmem', hname'⟩ := hm.functions name g hg
      rw [G.function_unique hmem' hmem (hname'.trans hname.symm)]
    · exact hg
  refine (update (fun hm => ⟨hm.bindings, fun name g hg => ?_⟩) fun _ => hgrows).weaken ?_
  · rw [NameMap.find?_insert] at hg
    split at hg
    · next hname =>
      obtain rfl := Option.some.inj hg
      exact ⟨hmem, hname⟩
    · exact hm.functions name g hg
  · rintro H' _ _ - - rfl
    have hfits' := hfits.grows hgrows
    refine hfits'.defined ?_
    refine .intro (f := ⟨f, m.scopes.depth⟩) (c := c) (by simp) ?_ ?_ ?_ ?_ ?_
    · exact m.scopes.depth_pos
    · exact hfits.depth.le
    · rw [hfits.depth]; exact hf
    · rw [hfits.depth]; exact hfits'.bound
    · exact fun g s' hs' => (hfits'.callable g s' hs').mono hfits.depth.ge

/-- The host and the port of a channel, and what is done with them. -/
theorem SoundAt.endpoint {α : Type} {line : Nat} {host port : Expr} {f : String → Nat → Exec α}
    {Q : HeapTyping → α → Machine → Prop} (ih : SoundAt G n) (hh : HasType names host .string)
    (hp : HasType names port .number) (hfits : Fits G m d names)
    (hf : ∀ {H' m'} s i, m.Grows m' → Sound G H' m' (f s i) Q) :
    Sound G H m (do
      let host ← Exec.hostOf line (← Exec.eval n host)
      let port ← Exec.portOf line (← Exec.eval n port)
      f host port) Q := by
  refine .bind (ih.eval hh hfits) fun H₁ hv m₁ _ hg₁ hhv => ?_
  refine .bind (Exec.hostOf_sound hhv) fun H₂ host m₂ _ hg₂ _ => ?_
  have hg := hg₁.trans hg₂
  refine .bind (ih.eval hp (hfits.grows hg)) fun H₃ pv m₃ _ hg₃ hpv => ?_
  refine .bind (Exec.portOf_sound hpv) fun H₄ port m₄ _ hg₄ _ => ?_
  exact hf host port (hg.trans (hg₃.trans hg₄))

/-- **A statement is sound**: one case for each form. -/
theorem SoundAt.run_succ {c c' : Context} {s : Stmt} (ih : SoundAt G n) (hs : StmtTyped G d c s c')
    (hfits : Fits G m d c.names) :
    Sound G H m (Exec.run (n + 1) s) fun H' flow m' =>
      Fits G m' d c'.names ∧ flow.Allowed H' c s.surelyReturns := by
  refine .bind .pause ?_
  rintro H₁ _ _ - - rfl
  cases hs with
  | declare _ hv hx =>
    refine .bind (ih.eval hv hfits) fun H₂ v m₂ _ hg₂ hv => ?_
    refine .bind (.declare hx hv) fun H₃ _ m₃ _ hg₃ hbound => ?_
    exact .pure ⟨(hfits.grows (hg₂.trans hg₃)).declared hbound hx, rfl⟩
  | assign ha =>
    refine .bind (ih.assign ha hfits) fun H₂ _ m₂ _ hg₂ _ => ?_
    exact .pure ⟨hfits.grows hg₂, rfl⟩
  | function hf =>
    exact .bind (.define hf hfits) fun H₂ _ m₂ _ _ hfits₂ => .pure ⟨hfits₂, rfl⟩
  | «return» hf hv =>
    refine .bind (ih.eval hv hfits) fun H₂ v m₂ _ hg₂ hv => ?_
    exact .pure ⟨hfits.grows hg₂, _, hf, hv⟩
  | branch hc hyes =>
    refine .bind (ih.test hc hfits) fun H₂ holds m₂ _ hg₂ _ => ?_
    have hfits₂ := hfits.grows hg₂
    cases holds with
    | true =>
      refine (ih.block (c := c) hyes hfits₂.opened rfl rfl).weaken fun _ flow _ _ hg₃ hflow => ?_
      exact ⟨hfits₂.grows hg₃, hflow.of_le (by simp [Stmt.surelyReturns])⟩
    | false => exact .pure ⟨hfits₂, rfl⟩
  | branchElse hc hyes hno =>
    refine .bind (ih.test hc hfits) fun H₂ holds m₂ _ hg₂ _ => ?_
    have hfits₂ := hfits.grows hg₂
    cases holds with
    | true =>
      refine (ih.block (c := c) hyes hfits₂.opened rfl rfl).weaken fun _ flow _ _ hg₃ hflow => ?_
      exact ⟨hfits₂.grows hg₃, hflow.of_le (by simp +contextual [Stmt.surelyReturns])⟩
    | false =>
      refine (ih.block (c := c) hno hfits₂.opened rfl rfl).weaken fun _ flow _ _ hg₃ hflow => ?_
      exact ⟨hfits₂.grows hg₃, hflow.of_le (by simp +contextual [Stmt.surelyReturns])⟩
  | «while» hc hbody => exact (ih.whileLoop hc hbody hfits).fits hfits
  | «for» hinit hc hu hbody =>
    refine Sound.fits (.inScope ?_ fun _ _ _ _ h => h) hfits
    refine .bind (ih.run hinit hfits.push.opened) fun H₂ _ m₂ _ _ ⟨hfits₂, _⟩ => ?_
    refine (ih.forLoop hc hu hbody hfits₂).weaken fun _ flow _ _ _ hflow => ?_
    exact hflow.of_eq hinit.restores.1.symm hinit.restores.2.symm
  | «break» h => exact .pure ⟨hfits, h⟩
  | «continue» h => exact .pure ⟨hfits, h⟩
  | seq hbody => exact (ih.block hbody hfits.opened rfl rfl).fits hfits
  | block hbody => exact (ih.block hbody hfits.opened rfl rfl).fits hfits
  | par hunits =>
    refine .bind (Exec.shareWith_sound _) ?_
    rintro H₂ _ _ - - rfl
    refine .bind (.fork hfits hunits) fun H₃ rs m₃ _ hg₃ hrs => ?_
    obtain hjoin | ⟨e, he, hjoin⟩ := Exec.join_cases rs
    · exact hjoin ▸ .pure ⟨hfits.grows hg₃, rfl⟩
    · exact hjoin ▸ .throw (hrs _ he)
  | expr hv =>
    refine .bind (ih.eval hv hfits) fun H₂ _ m₂ _ hg₂ _ => ?_
    exact .pure ⟨hfits.grows hg₂, rfl⟩
  | server hd hh hp =>
    refine .bind (ih.eval hd hfits) fun H₂ _ m₂ _ hg₂ _ => ?_
    have hfits₂ := hfits.grows hg₂
    refine ih.endpoint hh hp hfits₂ fun host port hg₃ => ?_
    refine .bind Exec.openServer_sound fun H₄ _ m₄ _ hg₄ _ => ?_
    exact .pure ⟨hfits₂.grows (hg₃.trans hg₄), rfl⟩
  | client hh hp hx =>
    refine ih.endpoint hh hp hfits fun host port hg₂ => ?_
    refine .bind Exec.attach_sound fun H₃ _ m₃ _ hg₃ _ => ?_
    refine .bind (.declare hx .text) fun H₄ _ m₄ _ hg₄ hbound => ?_
    exact .pure ⟨(hfits.grows (hg₂.trans (hg₃.trans hg₄))).declared hbound hx, rfl⟩

/-- **Every function of the interpreter is sound at every budget.** -/
theorem soundAt (G : Globals) (n : Nat) : SoundAt G n := by
  induction n with
  | zero =>
    exact ⟨fun _ _ => .exhausted, fun _ _ => .exhausted, fun _ _ _ _ => .exhausted,
      fun _ _ _ _ => .exhausted, fun _ _ => .exhausted, fun _ _ => .exhausted,
      fun _ _ => .exhausted, fun _ _ => .exhausted, fun _ _ _ => .exhausted,
      fun _ _ _ _ => .exhausted⟩
  | succ n ih =>
    exact ⟨ih.eval_succ, ih.evalAll_succ, ih.invoke_succ, ih.bindParams_succ, ih.run_succ,
      ih.runAll_succ, ih.test_succ, ih.assign_succ, ih.whileLoop_succ, ih.forLoop_succ⟩

/-- A program is sound from a machine that fits its start. -/
theorem runProgram_sound {c c' : Context} {ss : List Stmt} (hss : StmtsTyped G d c ss c')
    (hfits : Fits G m d c.names) : Sound G H m (Exec.runProgram n ss) fun _ _ _ => True := by
  induction ss generalizing c H m with
  | nil => exact .pure trivial
  | cons s rest ih =>
    cases hss with
    | cons hs hrest =>
      exact .bind ((soundAt G n).run hs hfits) fun H₁ _ m₁ _ _ ⟨hfits₁, _⟩ => ih hrest hfits₁

/-- The units of a promised fork keep to the protocol. -/
theorem forksKeep (G : Globals) : Task.ForksKeep (heapProtocol G) := by
  rintro H ⟨budget, machine, units⟩ ⟨hm, c, d, hfits, hunits⟩ s hs i
  obtain ⟨c₁, hs⟩ := hunits.mem s hs
  have hchild : (machine.child i).Typed G H := ⟨hm.bindings, hm.functions⟩
  have hgrows : machine.Grows (machine.child i) := ⟨Scopes.Grows.refl _, fun _ _ h => h⟩
  have hfits' : Fits G (machine.child i) d c.inUnit.names :=
    (hfits.grows hgrows).opened (c := { c with function? := none, loopDepth := 0 })
  have hrun : Sound G H (machine.child i) (Exec.runUnit budget s) fun _ _ _ => True :=
    .bind ((soundAt G budget).run hs hfits') fun _ _ _ _ _ _ => .pure trivial
  refine Process.Keeps.weaken (hrun hchild) ?_
  rintro H' ⟨r, m'⟩ - ⟨-, ht, -, -, herr⟩
  refine ⟨ht, ?_⟩
  cases r with
  | ok _ => trivial
  | error e => exact herr e rfl

end ParLang
