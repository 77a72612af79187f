import ParLang.Proofs.Resolution.Agreement
import ParLang.Proofs.Soundness.Secure

/-!
# Types of values where names may be declared again

Runs of exact programs do not fail for the type of a value, also where variables shadow each other and
functions share names, as long as names are resolved in the run as by the checker. The traced
interpreter gives up where they are not, so it is typed on what is exact alone (`SecureAt`); and if it
never gives up, the run is as it is.
-/

namespace ParLang

variable {H : HeapTyping} {tr : Trace} {m : Machine} {S : Static} {n : Nat} {q : Site}

/-- Every function of the traced interpreter is typed at the budget `n`. -/
structure SecureAt (n : Nat) : Prop where
  eval : ∀ {H tr m S q e t}, HasType S.context.names e t → Static.Exact S →
    Secures H tr m ((Traced.interpreter .names).eval n ⟨S, q⟩ e) fun H' v => v.HasType H' t
  evalAll : ∀ {H tr m S q es ts}, List.Forall₂ (HasType S.context.names) es ts → Static.Exact S →
    Secures H tr m ((Traced.interpreter .names).evalAll n ⟨S, q⟩ es) fun H' vs =>
      List.Forall₂ (Value.HasType H') vs ts
  invoke : ∀ {H tr m} {cl : Closure} {s args line}, cl.Exact → cl.static.Exact →
    cl.signature? = some s → cl.definition.required ≤ args.length →
    List.Forall₂ (Value.HasType H) args (s.params.take args.length) →
    Secures H tr m
      ((Traced.interpreter .names).invoke n ⟨cl.inside, cl.place⟩ cl.definition args line)
      fun H' v => v.HasType H' s.returns
  bindParams : ∀ {H tr m S q i function ps ts args line}, Static.Exact S →
    ParamsExact S.context ps ts → (∀ p ∈ ps.drop args.length, p.default?.isSome) →
    List.Forall₂ (Value.HasType H) args (ts.take args.length) →
    Secures H tr m
      ((Traced.interpreter .names).bindParams n ⟨S, i :: 0 :: q⟩ function ps args line)
      fun _ _ => True
  run : ∀ {H tr m S q s}, Stmt.Exact S s → Static.Exact S →
    Secures H tr m ((Traced.interpreter .names).run n ⟨S, q⟩ s) fun H' flow =>
      flow.Allowed H' S.context s.surelyReturns
  runAll : ∀ {H tr m S q i ss}, ExactAll S ss → Static.Exact S →
    Secures H tr m ((Traced.interpreter .names).runAll n ⟨S, i :: q⟩ ss) fun H' flow =>
      flow.Allowed H' S.context (anyReturns ss)
  test : ∀ {H tr m S q e}, HasType S.context.names e .bool → Static.Exact S →
    Secures H tr m ((Traced.interpreter .names).test n ⟨S, q⟩ e) fun _ _ => True
  assign : ∀ {H tr m S q a}, AssignTyped S.context.names a → Static.Exact S →
    Secures H tr m ((Traced.interpreter .names).assign n ⟨S, q⟩ a) fun _ _ => True
  whileLoop : ∀ {H tr m S q condition body}, HasType S.context.names condition .bool →
    ExactAll S.inLoop.opened body → Static.Exact S →
    Secures H tr m ((Traced.interpreter .names).whileLoop n ⟨S, q⟩ condition body) fun H' flow =>
      flow.Allowed H' S.context false
  forLoop : ∀ {H tr m S q condition update body}, HasType S.context.names condition .bool →
    AssignTyped S.context.names update → ExactAll S.inRound body → Static.Exact S →
    Secures H tr m ((Traced.interpreter .names).forLoop n ⟨S, q⟩ condition update body)
      fun H' flow => flow.Allowed H' S.context false

namespace SecureAt

/-! ## Expressions -/

/-- Expressions in a list, one after the other. -/
theorem evalAll_succ {es : List Expr} {ts : List StaticType} (ih : SecureAt n)
    (hes : List.Forall₂ (HasType S.context.names) es ts) (hS : S.Exact) :
    Secures H tr m ((Traced.interpreter .names).evalAll (n + 1) ⟨S, q⟩ es) fun H' vs =>
      List.Forall₂ (Value.HasType H') vs ts := by
  cases hes with
  | nil => exact .pure .nil
  | cons he hrest =>
    refine .bind (ih.eval he hS) fun H₁ v tr₁ m₁ _ hv => ?_
    refine .bind (ih.evalAll hrest hS) fun H₂ vs tr₂ m₂ hH₂ hvs => ?_
    exact .pure (.cons (hv.mono hH₂) hvs)

/-- A call of a function of the program. -/
theorem call {line : Nat} {callee : String} {args : List Expr} {s : Signature} (ih : SecureAt n)
    (hf : S.context.names.functions.find? callee = some s) (hreq : s.required ≤ args.length)
    (hargs : List.Forall₂ (HasType S.context.names) args (s.params.take args.length))
    (hb : Builtin.ofName? callee = none) (hS : S.Exact) :
    Secures H tr m ((Traced.interpreter .names).eval (n + 1) ⟨S, q⟩ (.call line callee args))
      fun H' v => v.HasType H' s.returns := by
  obtain ⟨cl, hcl, hs⟩ := hS.lexical.sees hf
  obtain ⟨-, hrequired, -, hparams, -⟩ := (hS.functions callee cl hcl).parts hs
  have hle : args.length ≤ s.params.length := by
    have := hargs.length_eq
    rw [List.length_take] at this
    omega
  rw [Interpreter.eval_call hb]
  refine .calleeAt_bind hcl ?_
  refine .bind (ih.evalAll hargs hS) fun H₁ vs tr₁ m₁ _ hvs => ?_
  have hlength : vs.length = args.length := hvs.length_eq.trans hargs.length_eq.symm
  have hcount : ¬(vs.length < cl.definition.required ∨ cl.definition.params.length < vs.length) := by
    have := hparams.length_eq
    omega
  refine (congrArg (Secures H₁ tr₁ m₁ · _) (if_neg hcount)).mpr ?_
  refine .bind (.pause _) fun H₂ _ tr₂ m₂ hH₂ _ => ?_
  refine .inCall fun tr₃ m₃ => ?_
  refine ih.invoke (hS.functions callee cl hcl) (hS.static hcl) hs (by omega) ?_
  rw [hlength]
  exact hasType_forall₂_mono hH₂ hvs

/-- The logical operators evaluate their right operand only if the left one leaves the value open. -/
theorem logical {line : Nat} {op : BinaryOp} {left right : Expr} (ih : SecureAt n)
    (hl : HasType S.context.names left .bool) (hr : HasType S.context.names right .bool)
    (hop : op = .and ∨ op = .or) (hS : S.Exact) :
    Secures H tr m ((Traced.interpreter .names).eval (n + 1) ⟨S, q⟩ (.binary line op left right))
      fun H' v => v.HasType H' .bool := by
  rw [Interpreter.eval_binary, if_pos hop]
  refine .bind (ih.eval hl hS) fun H₁ v tr₁ m₁ _ hv => ?_
  refine .bind (.lift_any (.expectLogical _ _ _) (Exec.expectLogical_sound hv))
    fun H₂ l tr₂ m₂ _ _ => ?_
  split
  · exact .pure .bool
  · refine .bind (ih.eval hr hS) fun H₃ v' tr₃ m₃ _ hv' => ?_
    refine .bind (.lift_any (.expectLogical _ _ _) (Exec.expectLogical_sound hv')) ?_
    exact fun _ _ _ _ _ _ => .pure .bool

/-- The other operators evaluate both operands. -/
theorem strict {line : Nat} {op : BinaryOp} {left right : Expr} {l r t : StaticType}
    (ih : SecureAt n) (hl : HasType S.context.names left l) (hr : HasType S.context.names right r)
    (ht : binaryType? op l r = some t) (hop : op ≠ .and ∧ op ≠ .or) (hS : S.Exact) :
    Secures H tr m ((Traced.interpreter .names).eval (n + 1) ⟨S, q⟩ (.binary line op left right))
      fun H' v => v.HasType H' t := by
  rw [Interpreter.eval_binary, if_neg (not_or.mpr hop)]
  refine .bind (ih.eval hl hS) fun H₁ lv tr₁ m₁ _ hlv => ?_
  refine .bind (ih.eval hr hS) fun H₂ rv tr₂ m₂ hH₂ hrv => ?_
  exact .lift (.binaryValue _ _ _ _ _) (Exec.binaryValue_sound ht hop (hlv.mono hH₂) hrv)

/-- An expression. A variable has the type of its declaration, for the traced run stops at any other. -/
theorem eval_succ {e : Expr} {t : StaticType} (ih : SecureAt n)
    (he : HasType S.context.names e t) (hS : S.Exact) :
    Secures H tr m ((Traced.interpreter .names).eval (n + 1) ⟨S, q⟩ e) fun H' v => v.HasType H' t := by
  cases he with
  | number => exact .pure .number
  | text => exact .pure .text
  | truth => exact .pure .bool
  | ident hx =>
    refine .atDeclared hS.lexical hx fun d hd ht => ?_
    exact ht ▸ .variableValue hd
  | @binary _ op _ _ l r _ hl hr ht =>
    cases op with
    | and | or =>
      cases binaryType?_eq_some_iff.mp ht
      exact ih.logical hl hr (by decide) hS
    | _ => exact ih.strict hl hr ht (by decide) hS
  | unary he =>
    refine .bind (ih.eval he hS) fun H₁ v tr₁ m₁ _ hv => ?_
    exact .lift (.unaryValue _ _ _) (Exec.unaryValue_sound hv)
  | builtin hb hargs ht =>
    rw [Interpreter.eval_builtin hb]
    refine .bind (ih.evalAll hargs hS) fun H₁ vs tr₁ m₁ _ hvs => ?_
    exact .lift (.callBuiltin _ _ _ _) (Exec.callBuiltin_sound ht hvs)
  | call hb hf hreq hargs => exact ih.call hf hreq hargs hb hS
  | index hb hp ht =>
    refine .bind (ih.eval hb hS) fun H₁ bv tr₁ m₁ _ hbv => ?_
    refine .bind (ih.eval hp hS) fun H₂ pv tr₂ m₂ hH₂ hpv => ?_
    refine .bind (.lift_any (.expectNumber _ _) (Exec.expectNumber_sound hpv))
      fun H₃ raw tr₃ m₃ hH₃ _ => ?_
    exact .lift (.indexValue _ _ _) (Exec.indexValue_sound (hbv.mono (hH₂.trans hH₃)) ht)
  | @array _ items element _ hitems ht =>
    have hes : List.Forall₂ (HasType S.context.names) items (items.map fun _ => element) :=
      List.forall₂_map_right_iff.mpr (List.forall₂_same.mpr hitems)
    refine .bind (ih.evalAll hes hS) fun H₁ vs tr₁ m₁ _ hvs => ?_
    exact .lift (.allocate _) (.allocate ht (forall_mem_of_forall₂ hvs (by simp)))

/-! ## Functions -/

/-- Parameters are declared with their types, from the arguments and then from the defaults. -/
theorem bindParams_succ {i line : Nat} {function : String} {ps : List Param} {ts : List StaticType}
    {args : List Value} (ih : SecureAt n) (hS : S.Exact) (hps : ParamsExact S.context ps ts)
    (hdefaults : ∀ p ∈ ps.drop args.length, p.default?.isSome)
    (hargs : List.Forall₂ (Value.HasType H) args (ts.take args.length)) :
    Secures H tr m
      ((Traced.interpreter .names).bindParams (n + 1) ⟨S, i :: 0 :: q⟩ function ps args line)
      fun _ _ => True := by
  cases hps with
  | nil =>
    exact .pure trivial
  | @cons _ p ps t ts ht hdefault hrest =>
    have htype : (Static.declarationOf p (i :: 0 :: q)).type = t := by
      rw [Static.declarationOf, ht]
      rfl
    have hS' := hS.withParam p (i :: 0 :: q)
    cases args with
    | cons v vs =>
      obtain ⟨hv, hvs⟩ := List.forall₂_cons.mp hargs
      refine .bind (.declare (htype ▸ hv)) fun H₁ _ tr₁ m₁ hH₁ _ => ?_
      exact ih.bindParams hS' hrest hdefaults (hasType_forall₂_mono hH₁ hvs)
    | nil =>
      obtain ⟨e, he⟩ := Option.isSome_iff_exists.mp (hdefaults p (by simp))
      rw [Interpreter.bindParams_default, he]
      refine .bind (ih.eval (hdefault e he) hS) fun H₁ v tr₁ m₁ _ hv => ?_
      refine .bind (.declare (htype ▸ hv)) fun H₂ _ tr₂ m₂ _ _ => ?_
      refine ih.bindParams hS' hrest (fun p' hp' => ?_) .nil
      exact hdefaults p' (by simpa using Or.inr hp')

/-- The body of a function, at the place where it is defined, ends with a value of the type of the call. -/
theorem invoke_succ {cl : Closure} {s : Signature} {args : List Value} {line : Nat}
    (ih : SecureAt n) (hcl : cl.Exact) (hstatic : cl.static.Exact) (hs : cl.signature? = some s)
    (hreq : cl.definition.required ≤ args.length)
    (hargs : List.Forall₂ (Value.HasType H) args (s.params.take args.length)) :
    Secures H tr m
      ((Traced.interpreter .names).invoke (n + 1) ⟨cl.inside, cl.place⟩ cl.definition args line)
      fun H' v => v.HasType H' s.returns := by
  obtain ⟨hcontext, -, hdefaults, hparams, hbody, hreturns⟩ := hcl.parts hs
  have hinside : cl.inside.Exact := .inside hstatic hcl
  have hdefaults : ∀ p ∈ cl.definition.params.drop args.length, p.default?.isSome := fun p hp =>
    hdefaults p (List.drop_subset_drop_left _ hreq hp)
  refine .bind (ih.bindParams hinside hparams hdefaults hargs) fun H₁ _ tr₁ m₁ _ _ => ?_
  refine .bind (ih.runAll hbody (hinside.withParams _ _ _)) fun H₂ flow tr₂ m₂ _ hflow => ?_
  have hbodyContext : cl.body.context.function? = some ⟨cl.definition.name, s.returns⟩ ∧
      cl.body.context.loopDepth = 0 := by
    rw [Closure.body, Static.context_withParams, hcontext]
    exact Context.restores_withParams _ _
  cases flow with
  | normal =>
    -- A body that comes to its end does not surely return, so nothing is asked of it.
    have hvoid : s.returns = .void := by
      by_contra hne
      rw [show anyReturns _ = false from hflow] at hreturns
      cases hreturns hne
    exact .pure (hvoid ▸ .void)
  | «break» => exact absurd hbodyContext.2 hflow
  | «continue» => exact absurd hbodyContext.2 hflow
  | «return» v =>
    obtain ⟨f, hf, hv⟩ := hflow
    obtain rfl := Option.some.inj (hbodyContext.1.symm.trans hf)
    exact .pure hv

/-! ## Statements -/

/-- A condition is a truth value. -/
theorem test_succ {e : Expr} (ih : SecureAt n) (he : HasType S.context.names e .bool)
    (hS : S.Exact) :
    Secures H tr m ((Traced.interpreter .names).test (n + 1) ⟨S, q⟩ e) fun _ _ => True := by
  refine .bind (ih.eval he hS) fun H₁ v tr₁ m₁ _ hv => ?_
  exact .lift_any (.expectCondition _ _) (Exec.expectCondition_sound hv)

/-- A value is stored where values of its type are. -/
theorem assign_succ {a : Assignment} (ih : SecureAt n) (ha : AssignTyped S.context.names a)
    (hS : S.Exact) :
    Secures H tr m ((Traced.interpreter .names).assign (n + 1) ⟨S, q⟩ a) fun _ _ => True := by
  cases ha with
  | «variable» hx hv =>
    refine .bind (ih.eval hv hS) fun H₁ v tr₁ m₁ _ hv => ?_
    refine .atDeclared hS.lexical hx fun d hd ht => ?_
    exact .assignVariable hd (ht ▸ hv)
  | cell hb hp ht hv =>
    refine .bind (ih.eval hb hS) fun H₁ bv tr₁ m₁ _ hbv => ?_
    obtain ⟨h, rfl, hh⟩ := hbv.element ht
    refine .bind (ih.eval hp hS) fun H₂ pv tr₂ m₂ hH₂ hpv => ?_
    refine .bind (.lift_any (.expectNumber _ _) (Exec.expectNumber_sound hpv))
      fun H₃ raw tr₃ m₃ hH₃ _ => ?_
    refine .bind (ih.eval hv hS) fun H₄ v tr₄ m₄ hH₄ hv => ?_
    exact .lift_any (.storeCell _ _ _ _)
      (Exec.storeCell_sound (((hH₂.trans hH₃).trans hH₄) _ _ hh) hv)

/-- Statements in sequence, each where it stands. -/
theorem runAll_succ {i : Nat} {ss : List Stmt} (ih : SecureAt n) (hss : ExactAll S ss)
    (hS : S.Exact) :
    Secures H tr m ((Traced.interpreter .names).runAll (n + 1) ⟨S, i :: q⟩ ss) fun H' flow =>
      flow.Allowed H' S.context (anyReturns ss) := by
  cases ss with
  | nil => exact .pure rfl
  | cons s rest =>
    obtain ⟨hs, hrest⟩ := hss.cons (q := i :: q)
    have hrestores := Check.statement_restores s S.context
    refine .bind (ih.run hs hS) fun H₁ flow tr₁ m₁ _ hflow => ?_
    cases flow with
    | normal =>
      refine (ih.runAll hrest (hS.after hs _)).weaken fun H' flow' _ hflow' => ?_
      rw [anyReturns, show s.surelyReturns = false from hflow, Bool.false_or]
      exact hflow'.of_eq hrestores.function?.symm hrestores.loopDepth.symm
    | «break» => exact .pure hflow
    | «continue» => exact .pure hflow
    | «return» v => exact .pure hflow

/-- Statements in a scope of their own; `b` says whether they have to return. -/
theorem block {i : Nat} {ss : List Stmt} {b : Bool} (ih : SecureAt n) (hss : ExactAll S.opened ss)
    (hS : S.Exact) (hb : b → anyReturns ss) :
    Secures H tr m (Traced.inScope ((Traced.interpreter .names).runAll n ⟨S.opened, i :: q⟩ ss))
      fun H' flow => flow.Allowed H' S.context b := by
  refine .inScope fun _ _ => (ih.runAll hss hS.opened).weaken fun H' flow _ hflow => ?_
  exact (hflow.of_eq rfl rfl).of_le hb

/-- A loop, whose body stands one place below it. -/
theorem whileLoop_succ {condition : Expr} {body : List Stmt} (ih : SecureAt n)
    (hc : HasType S.context.names condition .bool) (hbody : ExactAll S.inLoop.opened body)
    (hS : S.Exact) :
    Secures H tr m ((Traced.interpreter .names).whileLoop (n + 1) ⟨S, q⟩ condition body) fun H' flow =>
      flow.Allowed H' S.context false := by
  refine .bind (.pause _) fun H₁ _ tr₁ m₁ _ _ => ?_
  refine .bind (ih.test hc hS) fun H₂ holds tr₂ m₂ _ _ => ?_
  cases holds with
  | false => exact .pure rfl
  | true =>
    refine .bind (.inScope fun _ _ => ih.runAll hbody hS.inLoop.opened) fun H₃ flow tr₃ m₃ _ hflow => ?_
    cases flow with
    | «break» => exact .pure rfl
    | «return» v => exact .pure (hflow.of_body rfl)
    | normal => exact ih.whileLoop hc hbody hS
    | «continue» => exact ih.whileLoop hc hbody hS

/-- A loop with an update, which stands in the scope of the first statement. -/
theorem forLoop_succ {condition : Expr} {update : Assignment} {body : List Stmt} (ih : SecureAt n)
    (hc : HasType S.context.names condition .bool) (hu : AssignTyped S.context.names update)
    (hbody : ExactAll S.inRound body) (hS : S.Exact) :
    Secures H tr m ((Traced.interpreter .names).forLoop (n + 1) ⟨S, q⟩ condition update body)
      fun H' flow => flow.Allowed H' S.context false := by
  refine .bind (.pause _) fun H₁ _ tr₁ m₁ _ _ => ?_
  refine .bind (ih.test hc hS) fun H₂ holds tr₂ m₂ _ _ => ?_
  have hnext : ∀ {H tr m}, Secures H tr m (do
      (Traced.interpreter .names).assign n ⟨S, q⟩ update
      (Traced.interpreter .names).forLoop n ⟨S, q⟩ condition update body) fun H' flow =>
        flow.Allowed H' S.context false :=
    .bind (ih.assign hu hS) fun _ _ _ _ _ _ => ih.forLoop hc hu hbody hS
  cases holds with
  | false => exact .pure rfl
  | true =>
    refine .bind (.inScope fun _ _ => ih.runAll hbody hS.inRound) fun H₃ flow tr₃ m₃ _ hflow => ?_
    cases flow with
    | «break» => exact .pure rfl
    | «return» v => exact .pure (hflow.of_body rfl)
    | normal => exact hnext
    | «continue» => exact hnext

/-- The host and the port of a channel, and what is done with them. -/
theorem endpoint {line : Nat} {host port : Expr} {f : String → Nat → Traced Flow}
    {Q : HeapTyping → Flow → Prop} (ih : SecureAt n) (hh : HasType S.context.names host .string)
    (hp : HasType S.context.names port .number) (hS : S.Exact)
    (hf : ∀ {H tr m} host port, Secures H tr m (f host port) Q) :
    Secures H tr m (do
      let host ← Traced.lift
        (Exec.hostOf line (← (Traced.interpreter .names).eval n ⟨S, q⟩ host))
      let port ← Traced.lift
        (Exec.portOf line (← (Traced.interpreter .names).eval n ⟨S, q⟩ port))
      f host port) Q := by
  refine .bind (ih.eval hh hS) fun H₁ hv tr₁ m₁ _ hhv => ?_
  refine .bind (.lift_any (.hostOf _ _) (Exec.hostOf_sound hhv)) fun H₂ host tr₂ m₂ _ _ => ?_
  refine .bind (ih.eval hp hS) fun H₃ pv tr₃ m₃ _ hpv => ?_
  refine .bind (.lift_any (.portOf _ _) (Exec.portOf_sound hpv)) fun H₄ port tr₄ m₄ _ _ => ?_
  exact hf host port

/-- **A statement is typed**: one case for each form. -/
theorem run_succ {s : Stmt} (ih : SecureAt n) (hs : s.Exact S) (hS : S.Exact) :
    Secures H tr m ((Traced.interpreter .names).run (n + 1) ⟨S, q⟩ s) fun H' flow =>
      flow.Allowed H' S.context s.surelyReturns := by
  refine .bind (.pause (.statement s)) fun H₁ _ tr₁ m₁ _ _ => ?_
  cases s with
  | declare line x type value =>
    obtain ⟨t, ht, hv⟩ := hs.declare
    refine .bind (ih.eval hv hS) fun H₂ v tr₂ m₂ _ hv => ?_
    refine .bind (.declare ?_) fun H₃ _ tr₃ m₃ _ _ => .pure rfl
    rwa [ht]
  | assign a =>
    exact .bind (ih.assign hs.assign hS) fun H₂ _ tr₂ m₂ _ _ => .pure rfl
  | function f =>
    exact .bind .define fun H₂ _ tr₂ m₂ _ _ => .pure rfl
  | «return» line value =>
    obtain ⟨f, hf, hv⟩ := hs.return
    exact .bind (ih.eval hv hS) fun H₂ v tr₂ m₂ _ hv => .pure ⟨f, hf, hv⟩
  | branch line condition yes no? =>
    cases no? with
    | none =>
      obtain ⟨hc, hyes⟩ := hs.branch
      refine .bind (ih.test hc hS) fun H₂ holds tr₂ m₂ _ _ => ?_
      cases holds with
      | true => exact ih.block hyes hS (by simp [Stmt.surelyReturns])
      | false => exact .pure rfl
    | some no =>
      obtain ⟨hc, hyes, hno⟩ := hs.branchElse
      refine .bind (ih.test hc hS) fun H₂ holds tr₂ m₂ _ _ => ?_
      cases holds with
      | true => exact ih.block hyes hS (by simp +contextual [Stmt.surelyReturns])
      | false => exact ih.block hno hS (by simp +contextual [Stmt.surelyReturns])
  | «while» line condition body =>
    obtain ⟨hc, hbody⟩ := hs.while
    exact ih.whileLoop hc hbody hS
  | «for» line init condition update body =>
    obtain ⟨hinit, hc, hu, hbody⟩ := hs.for (q := q)
    have hrestores := Check.statement_restores init S.opened.context
    refine .inScope fun tr₂ m₂ => ?_
    refine .bind (ih.run hinit hS.opened) fun H₃ _ tr₃ m₃ _ _ => ?_
    refine (ih.forLoop hc hu hbody (hS.opened.after hinit _)).weaken fun H₄ flow _ hflow => ?_
    exact hflow.of_eq hrestores.function?.symm hrestores.loopDepth.symm
  | «break» line => exact .pure hs.break
  | «continue» line => exact .pure hs.continue
  | seq body => exact ih.block hs.seq hS id
  | block body => exact ih.block hs.block hS id
  | par units =>
    -- The units are typed where they start, and not here: the fork is handed on with what they need.
    refine .bind (.lift_any (.shareWith _) (Exec.shareWith_sound _)) fun H₂ _ tr₂ m₂ _ _ => ?_
    refine (Secures.fork_join fun ht hok => ⟨tr₂, S, q, ht, hS, hs.par, hok⟩).weaken ?_
    rintro H₃ _ - rfl
    rfl
  | expr line value =>
    obtain ⟨t, hv⟩ := hs.expr
    exact .bind (ih.eval hv hS) fun H₂ v tr₂ m₂ _ _ => .pure rfl
  | server ch =>
    obtain ⟨hd, hh, hp⟩ := hs.server
    refine .bind (ih.eval hd hS) fun H₂ _ tr₂ m₂ _ _ => ?_
    refine ih.endpoint hh hp hS fun host port => ?_
    exact .bind (.lift_any (.openServer _ _ _ _) Exec.openServer_sound) fun _ _ _ _ _ _ => .pure rfl
  | client ch =>
    obtain ⟨hh, hp⟩ := hs.client
    refine ih.endpoint hh hp hS fun host port => ?_
    refine .bind (.lift_any (.attach _ _ _ _) Exec.attach_sound) fun H₂ _ tr₂ m₂ _ _ => ?_
    exact .bind (.declare .text) fun _ _ _ _ _ _ => .pure rfl

end SecureAt

/-- **Every function of the traced interpreter is typed**, at every budget. -/
theorem secureAt (n : Nat) : SecureAt n := by
  induction n with
  | zero =>
    exact ⟨fun _ _ => .exhausted, fun _ _ => .exhausted, fun _ _ _ _ _ => .exhausted,
      fun _ _ _ _ => .exhausted, fun _ _ => .exhausted, fun _ _ => .exhausted, fun _ _ => .exhausted,
      fun _ _ => .exhausted, fun _ _ _ => .exhausted, fun _ _ _ _ => .exhausted⟩
  | succ n ih =>
    exact ⟨ih.eval_succ, ih.evalAll_succ, ih.invoke_succ, ih.bindParams_succ, ih.run_succ,
      ih.runAll_succ, ih.test_succ, ih.assign_succ, ih.whileLoop_succ, ih.forLoop_succ⟩

/-! ## Programs -/

/-- The statements of a program, from the first place on. -/
theorem runProgram_secures (budget : Nat) {i : Nat} {ss : List Stmt} (hss : ExactAll S ss)
    (hS : S.Exact) :
    Secures H tr m ((Traced.interpreter .names).runProgram budget ⟨S, [i]⟩ ss) fun _ _ => True := by
  induction ss generalizing H tr m S i with
  | nil => exact .pure trivial
  | cons s rest ih =>
    obtain ⟨hs, hrest⟩ := hss.cons (q := [i])
    exact .bind ((secureAt budget).run hs hS) fun _ _ _ _ _ _ => ih hrest (hS.after hs _)

/-- The units of a fork that is labelled keep to the protocol. -/
theorem forksKeep_labelProtocol : Task.ForksKeep labelProtocol := by
  rintro H ⟨budget, machine, units⟩ ⟨tr, S, q, ht, hS, hunits, hplain⟩ s hs i
  obtain ⟨j, hj⟩ := List.getElem?_of_mem hs
  have hrun : Secures H tr (machine.child i)
      (do let _ ← (Traced.interpreter .names).run budget ⟨S.inUnit, j :: q⟩ s) fun _ _ => True :=
    .bind ((secureAt budget).run (hunits s hs) hS.inUnit) fun _ _ _ _ _ _ => .pure trivial
  rw [← hplain j s hj i]
  exact hrun.plain ht

/-- **No run fails for the type of a value**, in any world and under any schedule, but where a text is
converted to a truth value or a number is not a port: in an accepted program in which every value has
exactly the type of the place where it is stored, or is the literal without items, and in which
functions surely return and names are resolved as by the checker. -/
theorem Program.types_respected {p : Program} (hcheck : p.check = .ok ()) (hmono : p.Monomorphic)
    (hreturns : p.SurelyReturns) (hcapture : p.CaptureFree) (hun : p.Unclobbered)
    {budget clock : Nat} {w w' : World} {t : Task} (hfresh : w.heap = .empty)
    (hrun : Task.Reaches (.start clock (Exec.runProgram budget p.statements) .initial) w t w') :
    ∀ e what, t.Fails e → e.cause = .typeMismatch what →
      (∃ text, what = .noTruth text) ∨ ∃ port, what = .invalidPort port := by
  have hexact : ExactAll .initial p.statements :=
    ⟨⟨_, Prod.ext hcheck rfl⟩, hmono, fun f hf => hreturns f hf⟩
  have hkeeps : (Task.start clock (Exec.runProgram budget p.statements) .initial).Keeps
      labelProtocol .empty := by
    rw [Task.start, ← (p.follows hcheck hun (fun _ => hcapture) budget).plain_eq]
    exact (runProgram_secures budget hexact .initial).plain Scopes.beside_new
  have hworld : w.heap.Typed .empty := hfresh ▸ Heap.typed_empty
  obtain ⟨H', -, hkeeps', -⟩ := hkeeps.run forksKeep_labelProtocol hworld hrun
  intro e what he hwhat
  have hcause : e.cause.Unchecked := hkeeps'.result he
  rw [hwhat] at hcause
  cases what with
  | noTruth text => exact .inl ⟨text, rfl⟩
  | invalidPort port => exact .inr ⟨port, rfl⟩
  | _ => exact hcause.elim

/-- A variable and a function that have other types in the one block than in the other. -/
def namesakes : Program where
  statements := [
    .declare 1 "x" (.named "bool") (.truth 1 true),
    .block ⟨2, [
      .function ⟨3, "f", [], .named "bool", ⟨3, [.return 3 (.ident 3 "x")]⟩⟩,
      .declare 4 "y" (.named "bool") (.call 4 "f" [])]⟩,
    .block ⟨6, [
      .declare 7 "x" (.named "string") (.text 7 "two"),
      .function ⟨8, "f", [], .named "string", ⟨8, [.return 8 (.ident 8 "x")]⟩⟩,
      .expr 9 (.call 9 "print" [.call 9 "f" []])]⟩]

/-- Every path through a function of the example returns. -/
theorem namesakes_surelyReturns : namesakes.SurelyReturns := by
  intro f hf _
  obtain rfl | rfl := List.mem_pair.mp hf
  · rfl
  · rfl

/-- No empty array in it leaves a type open. -/
theorem namesakes_monomorphic : namesakes.Monomorphic := by
  have hbool : StaticType.ofTypeExpr? (.named "bool") = some .bool := by decide
  have hstring : StaticType.ofTypeExpr? (.named "string") = some .string := by decide
  have hcall : ∀ {names : Names} {line : Nat}, (Expr.call line "f" []).Monomorphic names :=
    ⟨trivial, fun _ _ _ pair hpair => by simp at hpair⟩
  refine ⟨⟨trivial, fun t ht => .inl ?_⟩,
    ⟨⟨fun _ _ => ⟨trivial, trivial, trivial⟩, ⟨hcall, fun t ht => .inl ?_⟩, trivial⟩,
    ⟨⟨trivial, fun t ht => .inl ?_⟩, ⟨fun _ _ => ⟨trivial, trivial, trivial⟩,
      ⟨⟨⟨hcall, trivial⟩, fun h => absurd h (by decide)⟩, trivial⟩⟩⟩, trivial⟩⟩
  · obtain rfl := Option.some.inj (hbool.symm.trans ht)
    rfl
  · obtain rfl := Option.some.inj (hbool.symm.trans ht)
    decide +kernel
  · obtain rfl := Option.some.inj (hstring.symm.trans ht)
    rfl

/-- The run comes to its end: each function gives back a value of its own type. -/
theorem types_respected_namesakes :
    (namesakes.check = .ok () ∧ namesakes.Monomorphic ∧ namesakes.SurelyReturns ∧
      namesakes.CaptureFree ∧ namesakes.Unclobbered ∧
      Process.printed? (Exec.runProgram 40 namesakes.statements .initial) =
        some "two\n".toUTF8) ∧
    ∀ t w, Task.Reaches (.start 0 (Exec.runProgram 40 namesakes.statements) .initial) .deserted t w →
      ∀ e what, t.Fails e → e.cause = .typeMismatch what →
        (∃ text, what = .noTruth text) ∨ ∃ port, what = .invalidPort port := by
  have hcheck : namesakes.check = .ok () := by decide +kernel
  have hcapture : namesakes.CaptureFree := by decide
  have hun : namesakes.Unclobbered := by decide
  refine ⟨⟨hcheck, namesakes_monomorphic, namesakes_surelyReturns, hcapture, hun,
    by decide +kernel⟩, fun t w hrun => ?_⟩
  exact Program.types_respected hcheck namesakes_monomorphic namesakes_surelyReturns hcapture hun
    rfl hrun

/-! ## Where types are not exact -/

/-- The program is accepted, but a run of it fails for the type of a value, and neither for a text that
is no truth value nor for a number that is not a port. -/
def Program.Mistyped (p : Program) : Prop :=
  p.check = .ok () ∧ ∃ budget t w e what,
    Task.Reaches (.start 0 (Exec.runProgram budget p.statements) .initial) .deserted t w ∧
      t.Fails e ∧ e.cause = .typeMismatch what ∧
      (∀ text, what ≠ .noTruth text) ∧ ∀ port, what ≠ .invalidPort port

/-- Such a failure, as a test. -/
def RuntimeError.Cause.mistyped : RuntimeError.Cause → Bool
  | .typeMismatch (.noTruth _) => false
  | .typeMismatch (.invalidPort _) => false
  | .typeMismatch _ => true
  | _ => false

/-- To show that an accepted program meets a value of a wrong type it is enough to run it. -/
theorem Program.mistyped_of_failsFor {p : Program} (budget : Nat) (hcheck : p.check = .ok ())
    (h : Process.failsFor (·.mistyped) (Exec.runProgram budget p.statements .initial)) :
    p.Mistyped := by
  obtain ⟨t, w, e, hrun, he, hmistyped⟩ := Process.exists_fails h
  cases hcause : e.cause with
  | typeMismatch what =>
    rw [hcause] at hmistyped
    refine ⟨hcheck, budget, t, w, e, what, hrun, he, hcause, ?_, ?_⟩
    · rintro text rfl
      cases hmistyped
    · rintro port rfl
      cases hmistyped
  | _ =>
    rw [hcause] at hmistyped
    cases hmistyped

/-- An array of texts where an array of numbers is declared. -/
def looseArray : Program where
  statements := [
    .declare 1 "a" (.array (.named "number")) (.array 1 [.text 1 "x"]),
    .expr 2 (.call 2 "print" [.binary 2 .sub (.index 2 (.ident 2 "a") (.number 2 0)) (.number 2 1)])]

/-- A function whose body comes to its end without a value. -/
def silentFunction : Program where
  statements := [
    .function ⟨1, "f", [], .named "bool", ⟨1, []⟩⟩,
    .declare 2 "x" (.named "bool") (.unary 2 .not (.call 2 "f" []))]

/-- An array slot takes any array, and a function may give back nothing. -/
theorem loosePrograms_mistyped : looseArray.Mistyped ∧ silentFunction.Mistyped := by
  constructor
  · exact Program.mistyped_of_failsFor 20 (by decide +kernel) (by decide +kernel)
  · exact Program.mistyped_of_failsFor 20 (by decide +kernel) (by decide +kernel)

end ParLang
