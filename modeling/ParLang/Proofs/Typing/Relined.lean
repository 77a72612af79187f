import ParLang.Proofs.Program.Relined
import ParLang.Proofs.Scope.Raised
import ParLang.Proofs.Typing.Check

/-!
# Lines and outer scopes make no difference to a check

A check reads the lines of a program for its complaints only, and scopes without a name around all
others have no influence on it. `Check.Recasts` says both of two checks: in a context on top of `k` more
empty scopes, the second one ends as the first one does, with its complaint about the line that `f` puts
in the place of the line. A program and the relined program are two such checks
(`Check.statement_recasts`).
-/

namespace ParLang

variable {α β : Type} {f : Nat → Nat} {k : Nat}

/-! ## Expressions -/

/-- The complaint about another line. -/
def SemanticError.relined (f : Nat → Nat) (e : SemanticError) : SemanticError :=
  ⟨e.cause, f e.line⟩

/-- The result with the complaint about another line. -/
def Checked.relined (f : Nat → Nat) (x : Checked α) : Checked α :=
  x.mapError (SemanticError.relined f)

/-- The names in scopes on top of `k` empty ones. -/
def Names.raised (k : Nat) (names : Names) : Names :=
  ⟨names.scopes.raised k, names.functions⟩

namespace Checked

/-- What is found has no line. -/
@[simp] theorem relined_ok (f : Nat → Nat) (a : α) : relined f (.ok a) = .ok a := rfl

/-- The same for a value that is given. -/
@[simp] theorem relined_pure (f : Nat → Nat) (a : α) : relined f (pure a) = pure a := rfl

/-- A complaint moves with its line. -/
@[simp] theorem relined_complain (f : Nat → Nat) (line : Nat) (cause : SemanticError.Cause) :
    relined f (complain line cause : Checked α) = complain (f line) cause := rfl

/-- A sequence moves part by part. -/
@[simp] theorem relined_bind (f : Nat → Nat) (x : Checked α) (g : α → Checked β) :
    relined f (x >>= g) = relined f x >>= fun a => relined f (g a) := by
  cases x <;> rfl

/-- Moving nothing changes nothing. -/
@[simp] theorem relined_id (x : Checked α) : relined id x = x := by
  cases x <;> rfl

/-- Which part is taken does not depend on lines. -/
theorem relined_ite (f : Nat → Nat) (p : Prop) [Decidable p] (x y : Checked α) :
    relined f (if p then x else y) = if p then relined f x else relined f y :=
  apply_ite (relined f) p x y

end Checked

open Checked

/-- A type is resolved alike on every line. -/
theorem resolveType_relined (type : TypeExpr) (line : Nat) :
    resolveType type (f line) = (resolveType type line).relined f := by
  rw [resolveType, resolveType]
  split <;> rfl

/-- A value may be stored alike on every line. -/
theorem expectAssignable_relined (expected found : StaticType) (line : Nat) :
    expectAssignable expected found (f line) = (expectAssignable expected found line).relined f := by
  rw [expectAssignable, expectAssignable]
  split <;> rfl

/-- A type that has to be is looked for alike on every line. -/
theorem expectType_relined (role : Role) (expected found : StaticType) (line : Nat) :
    expectType role expected found (f line) = (expectType role expected found line).relined f := by
  rw [expectType, expectType]
  split <;> rfl

/-- Arguments are counted alike on every line. -/
theorem expectArity_relined (callee : Builtin) (expected : Nat) (args : List StaticType) (line : Nat) :
    expectArity callee expected args (f line) = (expectArity callee expected args line).relined f := by
  rw [expectArity, expectArity]
  split <;> rfl

/-- The same for arguments that have to be texts. -/
theorem expectTexts_relined (callee : Builtin) (line : Nat) (args : List StaticType) :
    expectTexts callee (f line) args = (expectTexts callee line args).relined f := by
  induction args with
  | nil => rfl
  | cons t rest ih => rw [expectTexts, expectTexts, relined_bind, expectType_relined, ih]

/-- The same for the arguments of the functions on texts. -/
theorem textArguments_relined (callee : Builtin) (expected : Nat) (args : List StaticType)
    (line : Nat) : textArguments callee expected args (f line) =
      (textArguments callee expected args line).relined f := by
  rw [textArguments, textArguments, relined_bind, expectArity_relined, expectTexts_relined]

/-- The same for a sole argument. -/
theorem soleArgument_relined (callee : Builtin) (args : List StaticType) (line : Nat) :
    soleArgument callee args (f line) = (soleArgument callee args line).relined f := by
  unfold soleArgument
  split <;> rfl

/-- The same for an argument that has to be printable. -/
theorem printableArgument_relined (callee : Builtin) (args : List StaticType) (line : Nat) :
    printableArgument callee args (f line) = (printableArgument callee args line).relined f := by
  simp only [printableArgument, relined_bind, soleArgument_relined, relined_ite, relined_ok,
    relined_complain]

/-- The type of a call of a built-in function is found alike on every line. -/
theorem builtinType_relined (callee : Builtin) (args : List StaticType) (line : Nat) :
    builtinType callee args (f line) = (builtinType callee args line).relined f := by
  cases callee with
  | print =>
    simp only [builtinType, relined_ite, relined_complain]
    split
    · rfl
    · split <;> rfl
  | _ =>
    simp only [builtinType, relined_bind, relined_pure, relined_ite, relined_complain,
      expectArity_relined, expectType_relined, textArguments_relined, soleArgument_relined,
      printableArgument_relined]

/-- Arguments are compared with parameters alike on every line. -/
theorem expectArguments_relined (line : Nat) (params args : List StaticType) :
    expectArguments (f line) params args = (expectArguments line params args).relined f := by
  induction params generalizing args with
  | nil => rfl
  | cons param params ih =>
    cases args with
    | nil => rfl
    | cons arg args =>
      rw [expectArguments, expectArguments, relined_bind, expectAssignable_relined, ih]

/-- The type of a call is found alike on every line, and below empty scopes. -/
theorem callType_relined (names : Names) (callee : String) (args : List StaticType) (line : Nat) :
    callType (names.raised k) callee args (f line) = (callType names callee args line).relined f := by
  unfold callType
  split
  · exact builtinType_relined _ _ _
  · have hfunctions : (names.raised k).functions = names.functions := rfl
    rw [hfunctions]
    cases names.functions.find? callee with
    | none => rfl
    | some signature =>
      dsimp only
      split
      · rfl
      · simp only [relined_bind, relined_pure, expectArguments_relined]

/-- The type of a variable is found alike on every line, and below empty scopes. -/
theorem variableType_relined (names : Names) (line : Nat) (name : String) :
    variableType (names.raised k) (f line) name = (variableType names line name).relined f := by
  have hfind : (names.raised k).scopes.find? name = names.scopes.find? name :=
    names.scopes.find?_raised k name
  rw [variableType, variableType, hfind]
  split <;> rfl

/-- The type of an index is found alike on every line. -/
theorem indexType_relined (base : StaticType) (line : Nat) :
    indexType base (f line) = (indexType base line).relined f := by
  rw [indexType, indexType, relined_ite]
  split
  · rfl
  · cases base.element? <;> rfl

/-- The type of an array is found alike on every line. -/
theorem literalType_relined (element? : Option StaticType) (line : Nat) :
    literalType element? (f line) = (literalType element? line).relined f := by
  rw [literalType, literalType]
  cases (element?.getD .number).arrayOf? <;> rfl

mutual

/-- An expression has the type that it has with other lines and on top of other scopes. -/
theorem Expr.typeIn_relined (names : Names) : ∀ e : Expr,
    (e.relined f).typeIn (names.raised k) = (e.typeIn names).relined f
  | .number _ _ | .text _ _ | .truth _ _ => rfl
  | .ident line name => variableType_relined names line name
  | .binary line op l r => by
    simp only [Expr.relined, Expr.typeIn, relined_bind, l.typeIn_relined names,
      r.typeIn_relined names]
    congr! with a b
    cases binaryType? op a b <;> rfl
  | .unary line op e => by
    simp only [Expr.relined, Expr.typeIn, relined_bind, e.typeIn_relined names, relined_ite,
      relined_ok, relined_complain]
  | .call line callee args => by
    simp only [Expr.relined, Expr.typeIn, relined_bind, typesIn_relined names args, callType_relined]
  | .index line base position => by
    simp only [Expr.relined, Expr.typeIn, relined_bind, base.typeIn_relined names,
      position.typeIn_relined names, Expr.line_relined, expectType_relined, indexType_relined]
  | .array line items => by
    simp only [Expr.relined, Expr.typeIn, relined_bind, elementIn_relined names line none items,
      literalType_relined]

/-- The types of moved expressions in a list are found as those of the expressions are. -/
theorem typesIn_relined (names : Names) : ∀ es : List Expr,
    typesIn (names.raised k) (relinedExprs f es) = (typesIn names es).relined f
  | [] => rfl
  | e :: es => by
    simp only [relinedExprs, typesIn, relined_bind, relined_pure, e.typeIn_relined names,
      typesIn_relined names es]

/-- So is the type of the elements of a moved array. -/
theorem elementIn_relined (names : Names) (line : Nat) : ∀ (found? : Option StaticType)
    (es : List Expr), elementIn (names.raised k) (f line) found? (relinedExprs f es) =
      (elementIn names line found? es).relined f
  | _, [] => rfl
  | none, e :: es => by
    simp only [relinedExprs, elementIn, relined_bind, e.typeIn_relined names,
      elementIn_relined names line _ es]
  | some first, e :: es => by
    simp only [relinedExprs, elementIn, relined_bind, e.typeIn_relined names,
      elementIn_relined names line _ es, relined_ite, relined_complain]

end

/-- So is a type that a moved expression has to have. -/
theorem expectExpr_relined (names : Names) (role : Role) (expected : StaticType) (e : Expr)
    (line : Nat) : expectExpr (names.raised k) role expected (e.relined f) (f line) =
      (expectExpr names role expected e line).relined f := by
  simp only [expectExpr, relined_bind, e.typeIn_relined names, expectType_relined]

/-! ## Checks -/

/-- The context on top of `k` more empty scopes. -/
def Context.raised (k : Nat) (c : Context) : Context :=
  { c with names := c.names.raised k }

namespace Check

/-- On top of more empty scopes the second check ends as the first does, with its complaint about
another line. -/
def Recasts (f : Nat → Nat) (k : Nat) (x y : Check α) : Prop :=
  ∀ c, y (c.raised k) = (Checked.relined f (x c).1, (x c).2.raised k)

namespace Recasts

variable {x y : Check α}

/-- What checks nothing is recast as itself. -/
theorem pure (a : α) : Recasts f k (Pure.pure a) (Pure.pure a) := fun _ => rfl

/-- A sequence is recast part by part. -/
theorem bind {g h : α → Check β} (hxy : Recasts f k x y) (hgh : ∀ a, Recasts f k (g a) (h a)) :
    Recasts f k (x >>= g) (y >>= h) := by
  intro c
  have hc := hxy c
  rcases hx : x c with ⟨e | a, c₁⟩
  · rw [hx] at hc
    rw [bind_apply_error g hx, bind_apply_error h hc]
    rfl
  · rw [hx] at hc
    rw [bind_apply_ok g hx, bind_apply_ok h hc]
    exact hgh a c₁

/-- An examination is recast if what it finds is. -/
theorem examine {g h : Context → Checked α} (hgh : ∀ c, h (c.raised k) = (g c).relined f) :
    Recasts f k (Check.examine g) (Check.examine h) :=
  fun c => Prod.ext (hgh c) rfl

/-- A rejection is recast as the same rejection at the other line. -/
theorem reject (line : Nat) (cause : SemanticError.Cause) :
    Recasts f k (Check.reject line cause : Check α) (Check.reject (f line) cause) := fun _ => rfl

/-- A name may be declared below empty scopes as it may without them. -/
theorem declare (what : Declared) (name : String) (t : StaticType) (line : Nat) :
    Recasts f k (Check.declare what name t line) (Check.declare what name t (f line)) := by
  intro c
  have hinner : (c.raised k).names.scopes.inner = c.names.scopes.inner := rfl
  rw [Check.declare, Check.declare, hinner]
  split <;> rfl

/-- So may a function be defined. -/
theorem define (name : String) (s : Signature) :
    Recasts f k (Check.define name s) (Check.define name s) := fun _ => rfl

section

variable {x y : Check Unit}

/-- A nested scope is on top of the same scopes. -/
theorem nested (hx : Restoring x) (hy : Restoring y) (hxy : Recasts f k x y) :
    Recasts f k (Check.nested x) (Check.nested y) := by
  intro c
  have hsnd : (Check.nested y (c.raised k)).2 = (Check.nested x c).2.raised k := by
    rw [Leaves.nested hy, Leaves.nested hx]
  have hfst : (Check.nested y (c.raised k)).1 = Checked.relined f (Check.nested x c).1 :=
    congrArg Prod.fst (hxy c.opened)
  exact Prod.ext hfst hsnd

/-- In a loop. -/
theorem looped (hxy : Recasts f k x y) : Recasts f k (Check.looped x) (Check.looped y) := by
  intro c
  have hfst : (Check.looped y (c.raised k)).1 = Checked.relined f (Check.looped x c).1 :=
    congrArg Prod.fst (hxy c.inLoop)
  have hsnd : (Check.looped y (c.raised k)).2 = (Check.looped x c).2.raised k :=
    congrArg (fun r => { r.2 with loopDepth := c.loopDepth }) (hxy c.inLoop)
  exact Prod.ext hfst hsnd

/-- In a function or outside of all. -/
theorem within (function? : Option Enclosing) (hxy : Recasts f k x y) :
    Recasts f k (Check.within function? x) (Check.within function? y) := by
  intro c
  have hc := hxy { c with function? := function?, loopDepth := 0 }
  have hfst : (Check.within function? y (c.raised k)).1 =
      Checked.relined f (Check.within function? x c).1 := congrArg Prod.fst hc
  have hsnd : (Check.within function? y (c.raised k)).2 = (Check.within function? x c).2.raised k :=
    congrArg (fun r => { r.2 with function? := c.function?, loopDepth := c.loopDepth }) hc
  exact Prod.ext hfst hsnd

end

/-- The type of an expression. -/
theorem typeOf (e : Expr) : Recasts f k (Check.typeOf e) (Check.typeOf (e.relined f)) :=
  examine fun c => e.typeIn_relined c.names

/-- A type that an expression has to have. -/
theorem expectTyped (role : Role) (expected : StaticType) (e : Expr) (line : Nat) :
    Recasts f k (Check.expectTyped role expected e line)
      (Check.expectTyped role expected (e.relined f) (f line)) :=
  examine fun c => expectExpr_relined c.names role expected e line

/-- The condition of a branch or a loop, which is complained about at its own line. -/
theorem condition (e : Expr) : Recasts f k (Check.expectTyped .condition .bool e e.line)
    (Check.expectTyped .condition .bool (e.relined f) (e.relined f).line) := by
  rw [e.line_relined]
  exact expectTyped _ _ _ _

/-- The host and the port of a channel. -/
theorem endpoint (host port : Expr) (line : Nat) : Recasts f k (Check.endpoint host port line)
    (Check.endpoint (host.relined f) (port.relined f) (f line)) :=
  bind (expectTyped _ _ _ _) fun _ => expectTyped _ _ _ _

/-- A value that has to be storable. -/
theorem assignable (expected found : StaticType) (line : Nat) :
    Recasts f k (Check.examine fun _ => expectAssignable expected found line)
      (Check.examine fun _ => expectAssignable expected found (f line)) :=
  examine fun _ => expectAssignable_relined expected found line

/-- The type of a target. -/
theorem targetType (line : Nat) (target : Target) : Recasts f k (Check.targetType line target)
    (Check.targetType (f line) (target.relined f)) := by
  cases target with
  | «variable» l name => exact examine fun c => variableType_relined c.names l name
  | cell base position =>
    refine bind (typeOf base) fun b => bind ?_ fun _ => ?_
    · rw [position.line_relined]
      exact expectTyped _ _ _ _
    · cases b.element? with
      | some t => exact pure t
      | none => exact reject _ _

/-- An assignment. -/
theorem assignment (a : Assignment) :
    Recasts f k (Check.assignment a) (Check.assignment (a.relined f)) :=
  bind (targetType _ _) fun _ => bind (typeOf _) fun _ => assignable _ _ _

/-- A value that is returned. -/
theorem returned (line : Nat) (value : Expr) :
    Recasts f k (Check.returned line value) (Check.returned (f line) (value.relined f)) := by
  refine examine fun c => ?_
  have hfunction : (c.raised k).function? = c.function? := rfl
  rw [hfunction]
  cases c.function? with
  | none => rfl
  | some g =>
    have hvalue : (value.relined f).typeIn (c.raised k).names = (value.typeIn c.names).relined f :=
      value.typeIn_relined c.names
    simp only [hvalue, relined_bind, relined_ite, relined_ok, relined_complain]

/-- A jump out of a loop. -/
theorem jump (j : Jump) (line : Nat) : Recasts f k (Check.jump j line) (Check.jump j (f line)) := by
  refine examine fun c => ?_
  rw [relined_ite]
  rfl

/-- The types of parameters, of which those with defaults come last. -/
theorem paramTypes (seenDefault : Bool) (ps : List Param) :
    Check.paramTypes seenDefault (ps.map (Param.relined f)) =
      (Check.paramTypes seenDefault ps).relined f := by
  induction ps generalizing seenDefault with
  | nil => rfl
  | cons p ps ih =>
    have hdefault : (p.relined f).default?.isNone = p.default?.isNone := Option.isNone_map
    have hdefault' : (p.relined f).default?.isSome = p.default?.isSome := Option.isSome_map
    have htype : resolveType (p.relined f).type (p.relined f).line =
        (resolveType p.type p.line).relined f := resolveType_relined _ _
    simp only [List.map_cons, Check.paramTypes, hdefault, hdefault', htype, ih]
    split
    · rfl
    · simp only [relined_bind, relined_pure]

/-- The signature of a definition. -/
theorem signature (d : FunctionDef Stmt) :
    Recasts f k (Check.signature d) (Check.signature (d.relined f)) := by
  refine examine fun c => ?_
  have hreturns : resolveType (d.relined f).returns (d.relined f).line =
      (resolveType d.returns d.line).relined f := resolveType_relined _ _
  have hparams : Check.paramTypes false (d.relined f).params =
      (Check.paramTypes false d.params).relined f := paramTypes _ _
  have hcontains : (c.raised k).names.functions.contains (d.relined f).name =
      c.names.functions.contains d.name := rfl
  simp only [hreturns, hparams, hcontains, d.required_relined]
  split
  · rfl
  · simp only [relined_bind, relined_pure]

/-- Parameters are declared one after the other. -/
theorem declareParams (ps : List Param) (ts : List StaticType) :
    Recasts f k (Check.declareParams ps ts) (Check.declareParams (ps.map (Param.relined f)) ts) := by
  induction ps generalizing ts with
  | nil => exact pure ()
  | cons p ps ih =>
    cases ts with
    | nil => exact pure ()
    | cons t ts =>
      have hrest : Recasts f k
          (Check.declare .variable p.name t p.line >>= fun _ => Check.declareParams ps ts)
          (Check.declare .variable p.name t (f p.line) >>= fun _ =>
            Check.declareParams (ps.map (Param.relined f)) ts) :=
        bind (declare _ _ _ _) fun _ => ih ts
      obtain ⟨line, name, type, default?⟩ := p
      cases default? with
      | none => exact hrest
      | some e => exact bind (typeOf e) fun _ => bind (assignable _ _ _) fun _ => hrest

/-- A server channel. -/
theorem server (ch : ServerChannel) :
    Recasts f k (Check.server ch) (Check.server (ch.relined f)) := by
  refine bind (examine fun c => ?_) fun _ => bind (expectTyped _ _ _ _) fun _ => endpoint _ _ _
  have hfind : (c.raised k).names.functions.find? (ch.relined f).handler =
      c.names.functions.find? ch.handler := rfl
  rw [hfind]
  cases c.names.functions.find? ch.handler with
  | none => rfl
  | some s =>
    simp only [relined_ite]
    rfl

/-- A client channel. -/
theorem client (ch : ClientChannel) : Recasts f k (Check.client ch) (Check.client (ch.relined f)) :=
  bind (endpoint _ _ _) fun _ => declare _ _ _ _

end Recasts

/-- What a loop with an update checks in its own scope. -/
theorem restoring_loop (init : Stmt) (condition : Expr) (update : Assignment) (body : List Stmt) :
    Restoring (do
      statement init
      expectTyped .condition .bool condition condition.line
      assignment update
      looped (statements body)) :=
  .bind (statement_restores init) fun _ => .bind (restoring_expectTyped _ _ _ _) fun _ =>
    .bind (restoring_assignment update) fun _ => (statements_restore body).looped

/-- A statement jumps whatever its line. -/
@[simp] theorem jumpOf?_relined (f : Nat → Nat) (s : Stmt) : jumpOf? (s.relined f) = jumpOf? s := by
  cases s with
  | branch line c yes no? => cases no? <;> rfl
  | _ => rfl

mutual

/-- **A statement is checked as it is with other lines and on top of other scopes.** -/
theorem statement_recasts : ∀ s : Stmt, Recasts f k (statement s) (statement (s.relined f))
  | .declare line _ type value =>
    .bind (.examine fun _ => resolveType_relined type line) fun _ => .bind (.typeOf value) fun _ =>
      .bind (.assignable _ _ _) fun _ => .declare _ _ _ _
  | .assign a => .assignment a
  | .function d =>
    .bind (.signature d) fun s => .bind (.define _ s) fun _ =>
      .within _ (.nested (.bind (restoring_declareParams _ _) fun _ => statements_restore _)
        (.bind (restoring_declareParams _ _) fun _ => statements_restore _)
        (.bind (.declareParams d.params s.params) fun _ => statements_recasts d.body.statements))
  | .return line value => .returned line value
  | .branch _ c yes none =>
    .bind (.condition c) fun _ =>
      .nested (statements_restore _) (statements_restore _) (statements_recasts yes.statements)
  | .branch _ c yes (some no) =>
    .bind (.condition c) fun _ =>
      .bind (.nested (statements_restore _) (statements_restore _) (statements_recasts yes.statements))
        fun _ =>
          .nested (statements_restore _) (statements_restore _) (statements_recasts no.statements)
  | .while _ c body =>
    .bind (.condition c) fun _ => .looped
      (.nested (statements_restore _) (statements_restore _) (statements_recasts body.statements))
  | .for _ init c update body =>
    .nested (restoring_loop _ _ _ _) (restoring_loop _ _ _ _)
      (.bind (statement_recasts init) fun _ => .bind (.condition c) fun _ =>
        .bind (.assignment update) fun _ => .looped (statements_recasts body.statements))
  | .break line => .jump .break line
  | .continue line => .jump .continue line
  | .seq body =>
    .nested (statements_restore _) (statements_restore _) (statements_recasts body.statements)
  | .block body =>
    .nested (statements_restore _) (statements_restore _) (statements_recasts body.statements)
  | .par body => units_recasts body.statements
  | .expr _ value => .bind (.typeOf value) fun _ => .pure ()
  | .server ch => .server ch
  | .client ch => .client ch

/-- Statements in sequence. -/
theorem statements_recasts : ∀ ss : List Stmt,
    Recasts f k (statements ss) (statements (relinedStmts f ss))
  | [] => .pure ()
  | s :: ss => .bind (statement_recasts s) fun _ => statements_recasts ss

/-- The units of a block. -/
theorem units_recasts : ∀ ss : List Stmt, Recasts f k (units ss) (units (relinedStmts f ss))
  | [] => .pure ()
  | s :: ss => by
    rw [relinedStmts, units, units, jumpOf?_relined, s.line_relined]
    cases jumpOf? s with
    | some j => exact .bind (.reject _ _) fun _ => units_recasts ss
    | none =>
      exact .bind (.within none (.nested (statement_restores _) (statement_restores _)
        (statement_recasts s))) fun _ => units_recasts ss

end

end Check

/-! ## Programs -/

/-- Checking a relined program gives the complaint about the other line. -/
theorem Program.check_relined (f : Nat → Nat) (p : Program) :
    (p.relined f).check = Checked.relined f p.check := by
  have hinitial : Context.initial.raised 0 = .initial := rfl
  have hrecasts := Check.statements_recasts (f := f) (k := 0) p.statements .initial
  rw [hinitial] at hrecasts
  exact congrArg Prod.fst hrecasts

/-- A program in a block of its own is checked as it is without the block. -/
theorem Program.check_seq (line : Nat) (p : Program) :
    Program.check ⟨[.seq ⟨line, p.statements⟩]⟩ = p.check := by
  have hopened : Context.initial.opened = Context.initial.raised 1 := rfl
  have hrecasts := Check.statements_recasts (f := id) (k := 1) p.statements .initial
  rw [relinedStmts_id, ← hopened] at hrecasts
  have hblock : (Check.nested (Check.statements p.statements) .initial).1 = p.check := by
    show (Check.statements p.statements Context.initial.opened).1 = p.check
    rw [hrecasts, Checked.relined_id]
    rfl
  rw [← hblock]
  show ((Check.nested (Check.statements p.statements) >>= fun _ => pure ()) .initial).1 = _
  rcases hnested : Check.nested (Check.statements p.statements) .initial with ⟨e | u, c⟩
  · rw [Check.bind_apply_error _ hnested]
  · rw [Check.bind_apply_ok _ hnested]
    rfl

end ParLang
