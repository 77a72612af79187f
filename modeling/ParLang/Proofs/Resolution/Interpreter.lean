import ParLang.Proofs.Resolution.Follows

/-!
# The interpreter resolves names as the checker does

Every function of the traced interpreter follows the one it traces, where the piece of program it runs
stands: no function is called and no name is looked up that the checker did not mean, as far as it is
watched. The functions call each other with a smaller budget, so `ResolvesAt` collects what is to be
shown of all of them at one budget, and each is proved for the next budget from all of them at this one.

Expressions leave the labels as they are, a statement adds its own (`Stmt.mark`), and the statements of
a block touch no scope but the innermost. All of them keep the functions that the code around them
sees.
-/

namespace ParLang

variable {K : Survey} {labels : Scopes Declaration} {taken : List String} {S : Static}
  {tr : Trace} {m : Machine} {n : Nat} {q : Site}

/-- The traced run of the statement at the place follows its run. -/
def Stmt.Resolves (K : Survey) (n : Nat) (labels : Scopes Declaration) (S : Static) (q : Site)
    (s : Stmt) : Prop :=
  ∀ {tr m}, Trace.At tr S labels →
    Mirrors K S.keeps tr m ((Traced.interpreter K.watch).run n ⟨S, q⟩ s) (Exec.run n s)
      (·.At (S.after q s) (s.mark q labels))

/-- Every function of the traced interpreter follows its own at the budget `n`. -/
structure ResolvesAt (K : Survey) (n : Nat) : Prop where
  eval : ∀ {labels taken S tr m q e}, Trace.At tr S labels → Expr.Typed S.context.names e →
    Stands K labels taken S e.idents →
    Mirrors K S.keeps tr m ((Traced.interpreter K.watch).eval n ⟨S, q⟩ e) (Exec.eval n e)
      (·.At S labels)
  evalAll : ∀ {labels taken S tr m q es}, Trace.At tr S labels →
    (∀ e ∈ es, Expr.Typed S.context.names e) → Stands K labels taken S (identsOf es) →
    Mirrors K S.keeps tr m ((Traced.interpreter K.watch).evalAll n ⟨S, q⟩ es) (Exec.evalAll n es)
      (·.At S labels)
  invoke : ∀ {labels tr m} {cl : Closure} {args line}, tr.At cl.inside labels → cl.Scoped K →
    Stands K labels [] cl.inside cl.definition.free →
    Mirrors K (fun _ => True) tr m
      ((Traced.interpreter K.watch).invoke n ⟨cl.inside, cl.place⟩ cl.definition args line)
      (Exec.invoke n cl.definition args line) (·.labels.outer = labels.outer)
  bindParams : ∀ {labels S tr m q i function ps args line body}, Trace.At tr S labels →
    DefaultsTyped S.context ps → Stands K labels [] S (freeInParams body ps) →
    Mirrors K S.keeps tr m
      ((Traced.interpreter K.watch).bindParams n ⟨S, i :: 0 :: q⟩ function ps args line)
      (Exec.bindParams n function ps args line) fun tr' => ∃ labels',
        tr'.At (S.withParams q i ps) labels' ∧ labels'.outer = labels.outer ∧
          Stands K labels' [] (S.withParams q i ps) body
  run : ∀ {labels taken S q s}, Stmt.Scoped K S q s → Stands K labels taken S s.free →
    s.Resolves K n labels S q
  runAll : ∀ {labels taken S tr m q i ss}, Trace.At tr S labels → ScopedAll K taken S q i ss →
    Stands K labels taken S (freeOf ss) →
    Mirrors K S.keeps tr m ((Traced.interpreter K.watch).runAll n ⟨S, i :: q⟩ ss) (Exec.runAll n ss)
      (·.labels.outer = labels.outer)
  test : ∀ {labels taken S tr m q e}, Trace.At tr S labels → Expr.Typed S.context.names e →
    Stands K labels taken S e.idents →
    Mirrors K S.keeps tr m ((Traced.interpreter K.watch).test n ⟨S, q⟩ e) (Exec.test n e)
      (·.At S labels)
  assign : ∀ {labels taken S tr m q a}, Trace.At tr S labels → Assignment.Typed S.context.names a →
    Stands K labels taken S a.idents →
    Mirrors K S.keeps tr m ((Traced.interpreter K.watch).assign n ⟨S, q⟩ a) (Exec.assign n a)
      (·.At S labels)
  whileLoop : ∀ {labels taken S tr m q condition body}, Trace.At tr S labels →
    Expr.Typed S.context.names condition → ScopedAll K [] S.inLoop.opened (0 :: q) 0 body →
    Stands K labels taken S (condition.idents ++ freeOf body) →
    Mirrors K S.keeps tr m ((Traced.interpreter K.watch).whileLoop n ⟨S, q⟩ condition body)
      (Exec.whileLoop n condition body) (·.At S labels)
  forLoop : ∀ {labels taken S tr m q condition update body}, Trace.At tr S labels →
    Expr.Typed S.context.names condition → Assignment.Typed S.context.names update →
    ScopedAll K [] S.inRound q 0 body →
    Stands K labels taken S (condition.idents ++ (update.idents ++ freeOf body)) →
    Mirrors K S.keeps tr m ((Traced.interpreter K.watch).forLoop n ⟨S, q⟩ condition update body)
      (Exec.forLoop n condition update body) (·.At S labels)

/-! ## Behind a statement -/

/-- A statement marks only the innermost scope. -/
@[simp] theorem Stmt.outer_mark (s : Stmt) (q : Site) (labels : Scopes Declaration) :
    (s.mark q labels).outer = labels.outer := by
  rw [Stmt.mark]
  split <;> rfl

/-- Behind an accepted statement at least as many functions are kept. -/
theorem Static.Lexical.keeps_after {s : Stmt} {c' : Context} {g : String} (h : S.Lexical)
    (hs : Check.statement s S.context = (.ok (), c')) (hg : S.keeps g) : (S.after q s).keeps g := by
  refine Or.imp_right (fun hvisible => ?_) hg
  obtain ⟨cl, hcl⟩ := NameMap.contains_iff.mp hvisible
  exact NameMap.contains_iff.mpr ⟨cl, h.within_after hs g cl hcl⟩

namespace ResolvesAt

/-! ## Expressions -/

/-- Expressions in a list, one after the other. -/
theorem evalAll_succ {es : List Expr} (ih : ResolvesAt K n) (hat : tr.At S labels)
    (hes : ∀ e ∈ es, e.Typed S.context.names) (hst : Stands K labels taken S (identsOf es)) :
    Mirrors K S.keeps tr m ((Traced.interpreter K.watch).evalAll (n + 1) ⟨S, q⟩ es)
      (Exec.evalAll (n + 1) es) (·.At S labels) := by
  cases es with
  | nil => exact .pure _ hat
  | cons e rest =>
    obtain ⟨he, hrest⟩ := List.forall_mem_cons.mp hes
    refine .bind (ih.eval hat he (hst.mono fun x => List.mem_append_left _)) fun v tr₁ m₁ hat₁ => ?_
    refine .bind (ih.evalAll hat₁ hrest (hst.mono fun x => List.mem_append_right _)) ?_
    exact fun vs tr₂ m₂ hat₂ => .pure _ hat₂

/-- A call of a function of the program. -/
theorem call {line : Nat} {callee : String} {args : List Expr} (ih : ResolvesAt K n)
    (hat : tr.At S labels) (hb : Builtin.ofName? callee = none)
    (hvisible : S.context.names.functions.contains callee)
    (hargs : ∀ e ∈ args, e.Typed S.context.names) (hst : Stands K labels taken S (identsOf args)) :
    Mirrors K S.keeps tr m
      ((Traced.interpreter K.watch).eval (n + 1) ⟨S, q⟩ (.call line callee args))
      (Exec.eval (n + 1) (.call line callee args)) (·.At S labels) := by
  obtain ⟨s, hs⟩ := NameMap.contains_iff.mp hvisible
  obtain ⟨cl, hcl, -⟩ := hst.lexical.sees hs
  obtain ⟨hpos, hdepth, hscoped, hinside, hin⟩ := hst.call hcl
  rw [Interpreter.eval_call hb, Exec.eval_call hb]
  refine .calleeAt_bind hat hcl ?_
  have hcall : ∀ {tr m vs}, Trace.At tr S labels →
      Mirrors K S.keeps tr m (do
        Traced.lift (Exec.pause (.call line cl.function))
        Traced.inCall cl.static.depth
          ((Traced.interpreter K.watch).invoke n ⟨cl.inside, cl.place⟩ cl.definition vs line))
      (do
        Exec.pause (.call line cl.function)
        Exec.inCall cl.static.depth (Exec.invoke n cl.definition vs line)) (·.At S labels) := by
    intro tr m vs hat
    refine .bind (Q := (·.At S labels)) (.pauseCall hpos (hat.labels ▸ hdepth) hat)
      fun _ tr₁ m₁ hat₁ => ?_
    refine .inCall hat₁ hpos hdepth fun tr₂ m₂ hl hc => ?_
    refine ih.invoke ⟨hl, fun g cl' hg => ?_⟩ hscoped hin
    rw [hc]
    exact hat₁.functions g cl' (hinside g cl' hg)
  refine .bind (ih.evalAll hat hargs hst) fun vs tr₁ m₁ hat₁ => ?_
  show Mirrors K S.keeps tr₁ m₁ (if vs.length < cl.definition.required ∨
      cl.definition.params.length < vs.length then _ else _)
    (if vs.length < cl.definition.required ∨ cl.definition.params.length < vs.length then _ else _) _
  split
  · exact .bind (Q := (·.At S labels)) .mismatch fun _ tr₂ m₂ hat₂ => hcall hat₂
  · exact hcall hat₁

/-- The logical operators evaluate their right operand only if the left one leaves the value open, and
the others evaluate both. -/
theorem binary {line : Nat} {op : BinaryOp} {left right : Expr} (ih : ResolvesAt K n)
    (hat : tr.At S labels) (hleft : left.Typed S.context.names)
    (hright : right.Typed S.context.names)
    (hst : Stands K labels taken S (left.idents ++ right.idents)) :
    Mirrors K S.keeps tr m
      ((Traced.interpreter K.watch).eval (n + 1) ⟨S, q⟩ (.binary line op left right))
      (Exec.eval (n + 1) (.binary line op left right)) (·.At S labels) := by
  have hstLeft : Stands K labels taken S left.idents := hst.mono fun x => List.mem_append_left _
  have hstRight : Stands K labels taken S right.idents := hst.mono fun x => List.mem_append_right _
  rw [Interpreter.eval_binary, Exec.eval_binary]
  split
  · refine .bind (ih.eval hat hleft hstLeft) fun v tr₁ m₁ hat₁ => ?_
    refine .bind (Q := (·.At S labels)) (.lift (.expectLogical _ _ _) hat₁) fun l tr₂ m₂ hat₂ => ?_
    split
    · exact .pure _ hat₂
    · refine .bind (ih.eval hat₂ hright hstRight) fun v' tr₃ m₃ hat₃ => ?_
      refine .bind (Q := (·.At S labels)) (.lift (.expectLogical _ _ _) hat₃) ?_
      exact fun r tr₄ m₄ hat₄ => .pure _ hat₄
  · refine .bind (ih.eval hat hleft hstLeft) fun v tr₁ m₁ hat₁ => ?_
    refine .bind (ih.eval hat₁ hright hstRight) fun v' tr₂ m₂ hat₂ => ?_
    exact .lift (.binaryValue _ _ _ _ _) hat₂

/-- An expression. A name and a call are where the traced run watches what it finds. -/
theorem eval_succ {e : Expr} (ih : ResolvesAt K n) (hat : tr.At S labels)
    (he : e.Typed S.context.names) (hst : Stands K labels taken S e.idents) :
    Mirrors K S.keeps tr m ((Traced.interpreter K.watch).eval (n + 1) ⟨S, q⟩ e) (Exec.eval (n + 1) e)
      (·.At S labels) := by
  cases e with
  | number line x => exact .pure _ hat
  | text line s => exact .pure _ hat
  | truth line b => exact .pure _ hat
  | ident line x =>
    exact .atDeclared hat hst.lexical he.ident (hst.agree x (by simp [Expr.idents]))
      fun hbound => .variableValue hbound hat
  | binary line op left right =>
    rw [Expr.idents] at hst
    obtain ⟨hleft, hright⟩ := he.binary
    exact ih.binary hat hleft hright hst
  | unary line op operand =>
    rw [Expr.idents] at hst
    refine .bind (ih.eval hat he.unary hst) fun v tr₁ m₁ hat₁ => ?_
    exact .lift (.unaryValue _ _ _) hat₁
  | call line callee args =>
    rw [Expr.idents] at hst
    obtain ⟨hargs, hvisible⟩ := he.call
    cases hb : Builtin.ofName? callee with
    | some builtin =>
      rw [Interpreter.eval_builtin hb, Exec.eval_builtin hb]
      refine .bind (ih.evalAll hat hargs hst) fun vs tr₁ m₁ hat₁ => ?_
      exact .lift (.callBuiltin _ _ _ _) hat₁
    | none => exact ih.call hat hb (hvisible hb) hargs hst
  | index line base position =>
    rw [Expr.idents] at hst
    obtain ⟨hbase, hposition⟩ := he.index
    refine .bind (ih.eval hat hbase (hst.mono fun x => List.mem_append_left _))
      fun b tr₁ m₁ hat₁ => ?_
    refine .bind (ih.eval hat₁ hposition (hst.mono fun x => List.mem_append_right _))
      fun p tr₂ m₂ hat₂ => ?_
    refine .bind (Q := (·.At S labels)) (.lift (.expectNumber _ _) hat₂) fun raw tr₃ m₃ hat₃ => ?_
    exact .lift (.indexValue _ _ _) hat₃
  | array line items =>
    rw [Expr.idents] at hst
    refine .bind (ih.evalAll hat he.array hst) fun vs tr₁ m₁ hat₁ => ?_
    exact .lift (.allocate _) hat₁

/-- A condition. -/
theorem test_succ {e : Expr} (ih : ResolvesAt K n) (hat : tr.At S labels)
    (he : e.Typed S.context.names) (hst : Stands K labels taken S e.idents) :
    Mirrors K S.keeps tr m ((Traced.interpreter K.watch).test (n + 1) ⟨S, q⟩ e) (Exec.test (n + 1) e)
      (·.At S labels) := by
  refine .bind (ih.eval hat he hst) fun v tr₁ m₁ hat₁ => ?_
  exact .lift (.expectCondition _ _) hat₁

/-- An assignment to a name, which is watched, or to a cell, whose name is evaluated. -/
theorem assign_succ {a : Assignment} (ih : ResolvesAt K n) (hat : tr.At S labels)
    (ha : a.Typed S.context.names) (hst : Stands K labels taken S a.idents) :
    Mirrors K S.keeps tr m ((Traced.interpreter K.watch).assign (n + 1) ⟨S, q⟩ a)
      (Exec.assign (n + 1) a) (·.At S labels) := by
  cases ha with
  | @«variable» line l x value hx hv =>
    have hst : Stands K labels taken S (x :: value.idents) := hst
    refine .bind (ih.eval hat hv (hst.mono fun y => List.mem_cons_of_mem _)) fun v tr₁ m₁ hat₁ => ?_
    exact .atDeclared hat₁ hst.lexical hx (hst.agree x (by simp))
      fun hbound => .assignVariable hbound hat₁
  | @cell line base position value hb hp hv =>
    have hst : Stands K labels taken S (base.idents ++ position.idents ++ value.idents) := hst
    refine .bind (ih.eval hat hb (hst.mono (by simp +contextual))) fun b tr₁ m₁ hat₁ => ?_
    cases b with
    | array h =>
      refine .bind (ih.eval hat₁ hp (hst.mono (by simp +contextual))) fun p tr₂ m₂ hat₂ => ?_
      refine .bind (Q := (·.At S labels)) (.lift (.expectNumber _ _) hat₂)
        fun raw tr₃ m₃ hat₃ => ?_
      refine .bind (ih.eval hat₃ hv (hst.mono (by simp +contextual))) fun v tr₄ m₄ hat₄ => ?_
      exact .lift (.storeCell _ _ _ _) hat₄
    | _ => exact .mismatch

/-! ## Functions -/

/-- Each parameter is declared behind those in front of it, and a default may take these. -/
theorem bindParams_succ {i line : Nat} {function : String} {ps : List Param}
    {args : List Value} {body : List String} (ih : ResolvesAt K n) (hat : tr.At S labels)
    (hps : DefaultsTyped S.context ps) (hst : Stands K labels [] S (freeInParams body ps)) :
    Mirrors K S.keeps tr m
      ((Traced.interpreter K.watch).bindParams (n + 1) ⟨S, i :: 0 :: q⟩ function ps args line)
      (Exec.bindParams (n + 1) function ps args line) fun tr' => ∃ labels',
        tr'.At (S.withParams q i ps) labels' ∧ labels'.outer = labels.outer ∧
          Stands K labels' [] (S.withParams q i ps) body := by
  cases ps with
  | nil => exact .pure _ ⟨labels, hat, rfl, hst⟩
  | cons p ps =>
    obtain ⟨hdefault, hps⟩ := hps
    rw [freeInParams] at hst
    -- The parameters behind this one see it, bound here under the label of the checker.
    have hrest : ∀ {tr m} (v : Value) (args : List Value), Trace.At tr S labels →
        Mirrors K S.keeps tr m (do
          Traced.declare p.name v (Static.declarationOf p (i :: 0 :: q))
          (Traced.interpreter K.watch).bindParams n
            ⟨S.withParam p (i :: 0 :: q), (i + 1) :: 0 :: q⟩ function ps args line)
        (do
          Exec.declare p.name v
          Exec.bindParams n function ps args line) fun tr' => ∃ labels',
            tr'.At (S.withParams q i (p :: ps)) labels' ∧ labels'.outer = labels.outer ∧
              Stands K labels' [] (S.withParams q i (p :: ps)) body := by
      intro tr m v args hat
      have hst' := (hst.mono fun x => List.mem_append_right _).withParam (q := i :: 0 :: q)
      refine .bind (Q := (·.At (S.withParam p (i :: 0 :: q))
        (labels.declare p.name (Static.declarationOf p (i :: 0 :: q)))))
        (.declare _ _ _ ⟨by rw [hat.labels], hat.functions⟩) fun _ tr₁ m₁ hat₁ => ?_
      exact (ih.bindParams hat₁ hps hst').weaken (fun _ h => h) fun _ h => h
    cases args with
    | cons v vs => exact hrest v vs hat
    | nil =>
      rw [Interpreter.bindParams_default, Exec.bindParams_default]
      cases he : p.default? with
      | some e =>
        rw [he] at hst
        refine .bind (ih.eval hat (hdefault e he) (hst.mono fun x => List.mem_append_left _)) ?_
        exact fun v tr₁ m₁ hat₁ => hrest v [] hat₁
      | none => exact .mismatch

/-- The body of a function runs where its parameters are declared. -/
theorem invoke_succ {cl : Closure} {args : List Value} {line : Nat} (ih : ResolvesAt K n)
    (hat : tr.At cl.inside labels) (hscoped : cl.Scoped K)
    (hst : Stands K labels [] cl.inside cl.definition.free) :
    Mirrors K (fun _ => True) tr m
      ((Traced.interpreter K.watch).invoke (n + 1) ⟨cl.inside, cl.place⟩ cl.definition args line)
      (Exec.invoke (n + 1) cl.definition args line) (·.labels.outer = labels.outer) := by
  have hinner : cl.body.inner = true := Static.inner_withParams _ _ _ _
  refine .bind ((ih.bindParams (q := cl.place) (i := 0) hat hscoped.defaults hst).weaken
    (fun _ _ => .inl rfl) fun _ h => h) fun _ tr₁ m₁ hend => ?_
  obtain ⟨labels₁, hat₁, houter, hst₁⟩ := hend
  refine .bind ((ih.runAll hat₁ hscoped.body hst₁).weaken (fun _ _ => .inl hinner) fun _ h => h)
    fun flow tr₂ m₂ houter₂ => ?_
  cases flow with
  | «return» v => exact .pure _ (houter₂.trans houter)
  | _ => exact .pure _ (houter₂.trans houter)

/-! ## Blocks and loops -/

/-- Statements in sequence: each one stands behind what the others have marked. -/
theorem runAll_succ {i : Nat} {ss : List Stmt} (ih : ResolvesAt K n) (hat : tr.At S labels)
    (hss : ScopedAll K taken S q i ss) (hst : Stands K labels taken S (freeOf ss)) :
    Mirrors K S.keeps tr m ((Traced.interpreter K.watch).runAll (n + 1) ⟨S, i :: q⟩ ss)
      (Exec.runAll (n + 1) ss) (·.labels.outer = labels.outer) := by
  cases ss with
  | nil => exact .pure _ (hat.labels ▸ rfl)
  | cons s rest =>
    obtain ⟨hs, hdeclares, hrest⟩ := hss.cons
    obtain ⟨c', haccepted⟩ := hs.accepted
    refine .bind (ih.run hs (hst.mono fun x => List.mem_append_left _) hat)
      fun flow tr₁ m₁ hat₁ => ?_
    cases flow with
    | normal =>
      refine (ih.runAll hat₁ hrest (hst.after hs hdeclares)).weaken
        (fun g => hst.lexical.keeps_after haccepted) fun tr₂ houter => ?_
      rw [houter, Stmt.outer_mark]
    | _ => exact .pure _ (by rw [hat₁.labels, Stmt.outer_mark])

/-- The statements of a block, in a scope of their own; the checker may have none for them. -/
theorem block (S₁ : Static) {ss : List Stmt} (ih : ResolvesAt K n) (hat : tr.At S labels)
    (hfunctions : S₁.functions = S.functions) (hinner : S₁.inner = S.inner)
    (hss : ScopedAll K [] S₁ q 0 ss) (hst : Stands K labels.push [] S₁ (freeOf ss)) :
    Mirrors K S.keeps tr m
      (Traced.inScope ((Traced.interpreter K.watch).runAll n ⟨S₁, 0 :: q⟩ ss))
      (Exec.inScope (Exec.runAll n ss)) (·.At S labels) := by
  refine .inScope hat fun tr₁ m₁ hat₁ => ?_
  have hat₁ : tr₁.At S₁ labels.push := ⟨hat₁.labels, hfunctions ▸ hat₁.functions⟩
  refine (ih.runAll hat₁ hss hst).weaken (fun g => ?_) fun _ h => h
  rw [Static.keeps, Static.keeps, hfunctions, hinner]
  exact id

/-- A loop. A round of it leaves the labels as they were, so the next one starts as it did. -/
theorem whileLoop_succ {condition : Expr} {body : List Stmt} (ih : ResolvesAt K n)
    (hat : tr.At S labels) (hc : condition.Typed S.context.names)
    (hbody : ScopedAll K [] S.inLoop.opened (0 :: q) 0 body)
    (hst : Stands K labels taken S (condition.idents ++ freeOf body)) :
    Mirrors K S.keeps tr m
      ((Traced.interpreter K.watch).whileLoop (n + 1) ⟨S, q⟩ condition body)
      (Exec.whileLoop (n + 1) condition body) (·.At S labels) := by
  refine .bind (Q := (·.At S labels)) (.lift (.perform rfl) hat) fun _ tr₁ m₁ hat₁ => ?_
  refine .bind (ih.test hat₁ hc (hst.mono fun x => List.mem_append_left _))
    fun holds tr₂ m₂ hat₂ => ?_
  cases holds with
  | false => exact .pure _ hat₂
  | true =>
    have hstBody : Stands K labels.push [] S.inLoop.opened (freeOf body) :=
      hst.inLoop.opened.mono fun x => List.mem_append_right _
    refine .bind (ih.block _ hat₂ rfl rfl hbody hstBody) fun flow tr₃ m₃ hat₃ => ?_
    cases flow with
    | «break» => exact .pure _ hat₃
    | «return» v => exact .pure _ hat₃
    | normal => exact ih.whileLoop hat₃ hc hbody hst
    | «continue» => exact ih.whileLoop hat₃ hc hbody hst

/-- A loop with an update, which stands in the scope of the first statement. -/
theorem forLoop_succ {condition : Expr} {update : Assignment} {body : List Stmt}
    (ih : ResolvesAt K n) (hat : tr.At S labels) (hc : condition.Typed S.context.names)
    (hu : update.Typed S.context.names) (hbody : ScopedAll K [] S.inRound q 0 body)
    (hst : Stands K labels taken S (condition.idents ++ (update.idents ++ freeOf body))) :
    Mirrors K S.keeps tr m
      ((Traced.interpreter K.watch).forLoop (n + 1) ⟨S, q⟩ condition update body)
      (Exec.forLoop (n + 1) condition update body) (·.At S labels) := by
  refine .bind (Q := (·.At S labels)) (.lift (.perform rfl) hat) fun _ tr₁ m₁ hat₁ => ?_
  refine .bind (ih.test hat₁ hc (hst.mono fun x => List.mem_append_left _))
    fun holds tr₂ m₂ hat₂ => ?_
  have hnext : ∀ {tr m}, Trace.At tr S labels → Mirrors K S.keeps tr m (do
      (Traced.interpreter K.watch).assign n ⟨S, q⟩ update
      (Traced.interpreter K.watch).forLoop n ⟨S, q⟩ condition update body)
    (do
      Exec.assign n update
      Exec.forLoop n condition update body) (·.At S labels) := by
    intro tr m hat
    refine .bind (ih.assign hat hu (hst.mono (by simp +contextual))) fun _ tr₁ m₁ hat₁ => ?_
    exact ih.forLoop hat₁ hc hu hbody hst
  cases holds with
  | false => exact .pure _ hat₂
  | true =>
    have hstBody : Stands K labels.push [] S.inRound (freeOf body) :=
      hst.inRound.mono (by simp +contextual)
    refine .bind (ih.block _ hat₂ rfl rfl hbody hstBody) fun flow tr₃ m₃ hat₃ => ?_
    cases flow with
    | «break» => exact .pure _ hat₃
    | «return» v => exact .pure _ hat₃
    | normal => exact hnext hat₃
    | «continue» => exact hnext hat₃

/-! ## Statements -/

/-- Every statement begins with a pause, which is no call. -/
theorem paused {α : Type} {s : Stmt} {kept : String → Prop} {x : Traced α} {y : Exec α}
    {Q : Trace → Prop} (hat : tr.At S labels)
    (h : ∀ {tr m}, Trace.At tr S labels → Mirrors K kept tr m x y Q) :
    Mirrors K kept tr m (Traced.lift (Exec.pause (.statement s)) >>= fun _ => x)
      (Exec.pause (.statement s) >>= fun _ => y) Q :=
  .bind (Q := (·.At S labels)) (.lift (.perform rfl) hat) fun _ _ _ hat => h hat

/-- A declaration evaluates its value before the name is there. -/
theorem run_declare {line : Nat} {x : String} {type : TypeExpr} {value : Expr} (ih : ResolvesAt K n)
    (hs : (Stmt.declare line x type value).Scoped K S q)
    (hst : Stands K labels taken S value.idents) :
    (Stmt.declare line x type value).Resolves K (n + 1) labels S q := by
  intro tr m hat
  obtain ⟨_, haccepted⟩ := hs.accepted
  cases Check.accepts_of_statement haccepted with
  | declare _ hv _ =>
    refine paused hat fun hat => .bind (ih.eval hat ⟨_, hv⟩ hst) fun v tr₁ m₁ hat₁ => ?_
    refine .bind (Q := (·.At (S.after q (.declare line x type value))
      ((Stmt.declare line x type value).mark q labels)))
      (.declare _ _ _ ⟨by rw [hat₁.labels]; rfl, hat₁.functions⟩) fun _ tr₂ m₂ hat₂ => ?_
    exact .pure _ hat₂

/-- An assignment. -/
theorem run_assign {a : Assignment} (ih : ResolvesAt K n) (hs : (Stmt.assign a).Scoped K S q)
    (hst : Stands K labels taken S a.idents) : (Stmt.assign a).Resolves K (n + 1) labels S q := by
  intro tr m hat
  obtain ⟨_, haccepted⟩ := hs.accepted
  cases Check.accepts_of_statement haccepted with
  | assign ha =>
    have ha := (Assignment.Typed.of_assignment ha).1
    refine paused hat fun hat => .bind (ih.assign hat ha hst) fun _ tr₁ m₁ hat₁ => ?_
    exact .pure _ ⟨hat₁.labels, hat₁.functions⟩

/-- A definition is kept with its place. -/
theorem run_function {f : FunctionDef Stmt} (hs : (Stmt.function f).Scoped K S q)
    (hst : Stands K labels taken S f.free) : (Stmt.function f).Resolves K (n + 1) labels S q := by
  intro tr m hat
  obtain ⟨_, haccepted⟩ := hs.accepted
  refine paused hat fun hat =>
    .bind (.define haccepted hs.function.1 hst.lexical hat hst.depth) fun _ tr₁ m₁ hat₁ => ?_
  exact .pure _ hat₁

/-- A return ends with its value. -/
theorem run_return {line : Nat} {value : Expr} (ih : ResolvesAt K n)
    (hs : (Stmt.return line value).Scoped K S q) (hst : Stands K labels taken S value.idents) :
    (Stmt.return line value).Resolves K (n + 1) labels S q := by
  intro tr m hat
  obtain ⟨_, haccepted⟩ := hs.accepted
  cases Check.accepts_of_statement haccepted with
  | «return» _ hv =>
    refine paused hat fun hat => .bind (ih.eval hat ⟨_, hv⟩ hst) fun v tr₁ m₁ hat₁ => ?_
    exact .pure _ ⟨hat₁.labels, hat₁.functions⟩

/-- A branch runs its block in a scope of its own. -/
theorem run_branch {line : Nat} {condition : Expr} {yes : Block Stmt} (ih : ResolvesAt K n)
    (hs : (Stmt.branch line condition yes none).Scoped K S q)
    (hst : Stands K labels taken S (condition.idents ++ freeOf yes.statements)) :
    (Stmt.branch line condition yes none).Resolves K (n + 1) labels S q := by
  intro tr m hat
  obtain ⟨hc, hyes⟩ := hs.branch
  refine paused hat fun hat =>
    .bind (ih.test hat hc (hst.mono fun x => List.mem_append_left _)) fun holds tr₁ m₁ hat₁ => ?_
  cases holds with
  | true =>
    have hstYes := hst.opened.mono fun x => List.mem_append_right _
    exact (ih.block S.opened hat₁ rfl rfl hyes hstYes).weaken (fun _ => id)
      fun _ h => ⟨h.labels, h.functions⟩
  | false => exact .pure _ ⟨hat₁.labels, hat₁.functions⟩

/-- A branch with two blocks runs one of them so. -/
theorem run_branchElse {line : Nat} {condition : Expr} {yes no : Block Stmt} (ih : ResolvesAt K n)
    (hs : (Stmt.branch line condition yes (some no)).Scoped K S q)
    (hst : Stands K labels taken S
      (condition.idents ++ (freeOf yes.statements ++ freeOf no.statements))) :
    (Stmt.branch line condition yes (some no)).Resolves K (n + 1) labels S q := by
  intro tr m hat
  obtain ⟨hc, hyes, hno⟩ := hs.branchElse
  refine paused hat fun hat =>
    .bind (ih.test hat hc (hst.mono fun x => List.mem_append_left _)) fun holds tr₁ m₁ hat₁ => ?_
  cases holds with
  | true =>
    have hstYes : Stands K labels.push [] S.opened (freeOf yes.statements) :=
      hst.opened.mono (by simp +contextual)
    exact (ih.block S.opened hat₁ rfl rfl hyes hstYes).weaken (fun _ => id)
      fun _ h => ⟨h.labels, h.functions⟩
  | false =>
    have hstNo : Stands K labels.push [] S.opened (freeOf no.statements) :=
      hst.opened.mono (by simp +contextual)
    exact (ih.block S.opened hat₁ rfl rfl hno hstNo).weaken (fun _ => id)
      fun _ h => ⟨h.labels, h.functions⟩

/-- The rounds of a `for` run behind its first statement, in the scope that it has begun. -/
theorem run_for {line : Nat} {init : Stmt} {condition : Expr} {update : Assignment}
    {body : Block Stmt} (ih : ResolvesAt K n)
    (hs : (Stmt.for line init condition update body).Scoped K S q)
    (hst : Stands K labels taken S (Stmt.for line init condition update body).free) :
    (Stmt.for line init condition update body).Resolves K (n + 1) labels S q := by
  intro tr m hat
  obtain ⟨hinit, hc, hu, hbody⟩ := hs.for
  obtain ⟨c₁, haccepted⟩ := hinit.accepted
  have hst₁ := hst.opened.after hinit fun _ _ _ _ => List.not_mem_nil
  refine paused hat fun hat => (Mirrors.inScope hat fun tr₁ m₁ hat₁ => ?_).weaken (fun _ => id)
    fun _ h => ⟨h.labels, h.functions⟩
  have hat₁ : tr₁.At S.opened labels.push := ⟨hat₁.labels, hat₁.functions⟩
  refine .bind (ih.run hinit (hst.opened.mono fun x => List.mem_append_left _) hat₁)
    fun _ tr₂ m₂ hat₂ => ?_
  refine (ih.forLoop hat₂ hc hu hbody hst₁).weaken
    (fun g => hst.opened.lexical.keeps_after haccepted) fun tr₃ hat₃ => ?_
  rw [hat₃.labels, Stmt.outer_mark]

/-- The units of a parallel block are followed one by one, each from the machine of the block. -/
theorem units {units : List Stmt} (ih : ResolvesAt K n) (hat : tr.At S labels)
    (hunits : ∀ (i : Nat) (s : Stmt), units[i]? = some s → s.Scoped K S.inUnit (i :: q))
    (hst : Stands K labels taken S (freeOfUnits units)) (ht : Tracks K tr m) (i : Nat) (s : Stmt)
    (hs : units[i]? = some s) (j : Nat) :
    Traced.plain (do let _ ← (Traced.interpreter K.watch).run n ⟨S.inUnit, i :: q⟩ s) tr
      (m.child j) = Exec.runUnit n s (m.child j) := by
  have hat : tr.At S.inUnit labels := ⟨hat.labels, hat.functions⟩
  have hfree := subset_freeOfUnits (List.mem_of_getElem? hs)
  have hrun := ih.run (hunits i s hs) (hst.inUnit.mono hfree) (m := m.child j) hat
  have hunit : Mirrors K _ tr (m.child j)
      (do let _ ← (Traced.interpreter K.watch).run n ⟨S.inUnit, i :: q⟩ s) (Exec.runUnit n s)
      fun _ => True :=
    .bind hrun fun _ tr₁ m₁ hat₁ => .pure () trivial
  exact (hunit (ht.withScopes ht.labels rfl rfl)).plain_eq

/-- The units of a block run on copies, so nothing of theirs is seen behind it. -/
theorem run_par {units : Block Stmt} (ih : ResolvesAt K n) (hs : (Stmt.par units).Scoped K S q)
    (hst : Stands K labels taken S (freeOfUnits units.statements)) :
    (Stmt.par units).Resolves K (n + 1) labels S q := by
  intro tr m hat
  refine paused hat fun hat =>
    .bind (Q := (·.At S labels)) (.lift (.shareWith _) hat) fun _ tr₁ m₁ hat₁ => ?_
  refine .fork_join (ih.units hat₁ hs.par hst) (fun ht => ?_) ⟨hat₁.labels, hat₁.functions⟩
  have hlabels := hat₁.labels
  subst hlabels
  exact ⟨tr₁, S, taken, q, ht, hat₁, hst, hs.par⟩

/-- The host and the port of a channel, and what is done with them. -/
theorem endpoint {line : Nat} {host port : Expr} {f : String → Nat → Traced Flow}
    {g : String → Nat → Exec Flow} {Q : Trace → Prop} (ih : ResolvesAt K n) (hat : tr.At S labels)
    (hh : host.Typed S.context.names) (hp : port.Typed S.context.names)
    (hst : Stands K labels taken S (host.idents ++ port.idents))
    (h : ∀ {tr m} (host : String) (port : Nat), Trace.At tr S labels →
      Mirrors K S.keeps tr m (f host port) (g host port) Q) :
    Mirrors K S.keeps tr m (do
      let host ← Traced.lift
        (Exec.hostOf line (← (Traced.interpreter K.watch).eval n ⟨S, q⟩ host))
      let port ← Traced.lift
        (Exec.portOf line (← (Traced.interpreter K.watch).eval n ⟨S, q⟩ port))
      f host port)
    (do
      let host ← Exec.hostOf line (← Exec.eval n host)
      let port ← Exec.portOf line (← Exec.eval n port)
      g host port) Q := by
  refine .bind (ih.eval hat hh (hst.mono fun x => List.mem_append_left _)) fun v tr₁ m₁ hat₁ => ?_
  refine .bind (Q := (·.At S labels)) (.lift (.hostOf _ _) hat₁) fun host tr₂ m₂ hat₂ => ?_
  refine .bind (ih.eval hat₂ hp (hst.mono fun x => List.mem_append_right _)) fun w tr₃ m₃ hat₃ => ?_
  refine .bind (Q := (·.At S labels)) (.lift (.portOf _ _) hat₃) fun port tr₄ m₄ hat₄ => ?_
  exact h host port hat₄

/-- A server channel evaluates its description, its host and its port, and binds no name. -/
theorem run_server {ch : ServerChannel} (ih : ResolvesAt K n) (hs : (Stmt.server ch).Scoped K S q)
    (hst : Stands K labels taken S
      (ch.description.idents ++ (ch.host.idents ++ ch.port.idents))) :
    (Stmt.server ch).Resolves K (n + 1) labels S q := by
  intro tr m hat
  obtain ⟨_, haccepted⟩ := hs.accepted
  cases Check.accepts_of_statement haccepted with
  | server hd hh hp =>
    refine paused hat fun hat => .bind (ih.eval hat ⟨_, hd⟩ (hst.mono fun x => List.mem_append_left _))
      fun _ tr₁ m₁ hat₁ => ?_
    refine ih.endpoint hat₁ ⟨_, hh⟩ ⟨_, hp⟩ (hst.mono fun x => List.mem_append_right _) ?_
    intro tr₂ m₂ host port hat₂
    refine .bind (Q := (·.At S labels)) (.lift (.openServer _ _ _ _) hat₂)
      fun _ tr₃ m₃ hat₃ => ?_
    exact .pure _ ⟨hat₃.labels, hat₃.functions⟩

/-- A channel becomes a variable once it is open. -/
theorem run_client {ch : ClientChannel} (ih : ResolvesAt K n) (hs : (Stmt.client ch).Scoped K S q)
    (hst : Stands K labels taken S (ch.host.idents ++ ch.port.idents)) :
    (Stmt.client ch).Resolves K (n + 1) labels S q := by
  intro tr m hat
  obtain ⟨_, haccepted⟩ := hs.accepted
  cases Check.accepts_of_statement haccepted with
  | client hh hp =>
    refine paused hat fun hat => ih.endpoint hat ⟨_, hh⟩ ⟨_, hp⟩ hst ?_
    intro tr₁ m₁ host port hat₁
    refine .bind (Q := (·.At S labels)) (.lift (.attach _ _ _ _) hat₁) fun _ tr₂ m₂ hat₂ => ?_
    refine .bind (Q := (·.At (S.after q (.client ch)) ((Stmt.client ch).mark q labels)))
      (.declare _ _ _ ⟨by rw [hat₂.labels]; rfl, hat₂.functions⟩) fun _ tr₃ m₃ hat₃ => ?_
    exact .pure _ hat₃

/-- A statement, by its form. -/
theorem run_succ {s : Stmt} (ih : ResolvesAt K n) (hs : s.Scoped K S q)
    (hst : Stands K labels taken S s.free) : s.Resolves K (n + 1) labels S q := by
  cases s with
  | declare line x type value => exact ih.run_declare hs hst
  | assign a => exact ih.run_assign hs hst
  | function f => exact run_function hs hst
  | «return» line value => exact ih.run_return hs hst
  | branch line condition yes no? =>
    cases no? with
    | none => exact ih.run_branch hs hst
    | some no => exact ih.run_branchElse hs hst
  | «while» line condition body =>
    obtain ⟨hc, hbody⟩ := hs.while
    exact fun hat => paused hat fun hat => (ih.whileLoop hat hc hbody hst).weaken (fun _ => id)
      fun _ h => ⟨h.labels, h.functions⟩
  | «for» line init condition update body => exact ih.run_for hs hst
  | «break» line =>
    exact fun hat => paused hat fun hat => .pure _ ⟨hat.labels, hat.functions⟩
  | «continue» line =>
    exact fun hat => paused hat fun hat => .pure _ ⟨hat.labels, hat.functions⟩
  | seq body =>
    exact fun hat => paused hat fun hat => (ih.block S.opened hat rfl rfl hs.seq hst.opened).weaken
      (fun _ => id) fun _ h => ⟨h.labels, h.functions⟩
  | block body =>
    exact fun hat => paused hat fun hat => (ih.block S.opened hat rfl rfl hs.block hst.opened).weaken
      (fun _ => id) fun _ h => ⟨h.labels, h.functions⟩
  | par units => exact ih.run_par hs hst
  | expr line value =>
    obtain ⟨_, haccepted⟩ := hs.accepted
    cases Check.accepts_of_statement haccepted with
    | expr hv =>
      refine fun hat => paused hat fun hat => .bind (ih.eval hat ⟨_, hv⟩ hst) fun v tr₁ m₁ hat₁ => ?_
      exact .pure _ ⟨hat₁.labels, hat₁.functions⟩
  | server ch => exact ih.run_server hs hst
  | client ch => exact ih.run_client hs hst

end ResolvesAt

/-- **The traced interpreter follows the interpreter**, at every budget. -/
theorem resolvesAt (K : Survey) (n : Nat) : ResolvesAt K n := by
  induction n with
  | zero =>
    exact ⟨fun _ _ _ => .exhausted, fun _ _ _ => .exhausted, fun _ _ _ => .exhausted,
      fun _ _ _ => .exhausted, fun _ _ _ _ _ => .exhausted, fun _ _ _ => .exhausted,
      fun _ _ _ => .exhausted, fun _ _ _ => .exhausted, fun _ _ _ _ => .exhausted,
      fun _ _ _ _ _ => .exhausted⟩
  | succ n ih =>
    exact ⟨ih.eval_succ, ih.evalAll_succ, ih.invoke_succ, ih.bindParams_succ, ih.run_succ,
      ih.runAll_succ, ih.test_succ, ih.assign_succ, ih.whileLoop_succ, ih.forLoop_succ⟩

/-- The statements of a program, from the first place on. -/
theorem runProgram_mirrors (budget : Nat) {i : Nat} {ss : List Stmt} (hat : tr.At S labels)
    (hss : ScopedAll K taken S [] i ss) (hst : Stands K labels taken S (freeOf ss)) :
    Mirrors K (fun _ => False) tr m ((Traced.interpreter K.watch).runProgram budget ⟨S, [i]⟩ ss)
      (Exec.runProgram budget ss) fun _ => True := by
  induction ss generalizing tr m S labels taken i with
  | nil => exact .pure _ trivial
  | cons s rest ih =>
    obtain ⟨hs, hdeclares, hrest⟩ := hss.cons
    refine .bind (((resolvesAt K budget).run hs (hst.mono fun x => List.mem_append_left _)
      hat).weaken (fun _ h => h.elim) fun _ h => h) ?_
    exact fun _ tr₁ m₁ hat₁ => ih hat₁ hrest (hst.after hs hdeclares)

end ParLang
