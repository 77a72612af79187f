import ParLang.Program.Printer
import ParLang.Proofs.Program.Lines

/-!
# Programs with other lines

`Program.relined f` puts the line `f l` in the place of every line `l` of a program. With the identity
that is the program itself, and with the constant zero the program without its lines. What is done with
a program is compared with what is done with the relined program; `Program.print_unlined` is the
simplest case, where the lines make no difference at all.
-/

namespace ParLang

/-! ## Definitions -/

mutual

/-- The expression with other lines. -/
def Expr.relined (f : Nat → Nat) : Expr → Expr
  | .number line x => .number (f line) x
  | .text line s => .text (f line) s
  | .truth line b => .truth (f line) b
  | .ident line x => .ident (f line) x
  | .binary line op l r => .binary (f line) op (l.relined f) (r.relined f)
  | .unary line op e => .unary (f line) op (e.relined f)
  | .call line callee args => .call (f line) callee (relinedExprs f args)
  | .index line base position => .index (f line) (base.relined f) (position.relined f)
  | .array line items => .array (f line) (relinedExprs f items)

/-- `Expr.relined` element by element. -/
def relinedExprs (f : Nat → Nat) : List Expr → List Expr
  | [] => []
  | e :: es => e.relined f :: relinedExprs f es

end

/-- The target with other lines. -/
def Target.relined (f : Nat → Nat) : Target → Target
  | .variable line x => .variable (f line) x
  | .cell base position => .cell (base.relined f) (position.relined f)

/-- The assignment with other lines. -/
def Assignment.relined (f : Nat → Nat) (a : Assignment) : Assignment :=
  ⟨f a.line, a.target.relined f, a.value.relined f⟩

/-- The parameter with other lines. -/
def Param.relined (f : Nat → Nat) (p : Param) : Param :=
  ⟨f p.line, p.name, p.type, p.default?.map (Expr.relined f)⟩

/-- The server channel with other lines. -/
def ServerChannel.relined (f : Nat → Nat) (c : ServerChannel) : ServerChannel :=
  ⟨f c.line, c.name, c.handler, c.description.relined f, c.host.relined f, c.port.relined f⟩

/-- The client channel with other lines. -/
def ClientChannel.relined (f : Nat → Nat) (c : ClientChannel) : ClientChannel :=
  ⟨f c.line, c.name, c.host.relined f, c.port.relined f⟩

mutual

/-- The statement with other lines. -/
def Stmt.relined (f : Nat → Nat) : Stmt → Stmt
  | .declare line x t e => .declare (f line) x t (e.relined f)
  | .assign a => .assign (a.relined f)
  | .function d =>
    .function ⟨f d.line, d.name, d.params.map (Param.relined f), d.returns,
      ⟨f d.body.line, relinedStmts f d.body.statements⟩⟩
  | .return line e => .return (f line) (e.relined f)
  | .branch line c yes none =>
    .branch (f line) (c.relined f) ⟨f yes.line, relinedStmts f yes.statements⟩ none
  | .branch line c yes (some no) =>
    .branch (f line) (c.relined f) ⟨f yes.line, relinedStmts f yes.statements⟩
      (some ⟨f no.line, relinedStmts f no.statements⟩)
  | .while line c body =>
    .while (f line) (c.relined f) ⟨f body.line, relinedStmts f body.statements⟩
  | .for line init c update body =>
    .for (f line) (init.relined f) (c.relined f) (update.relined f)
      ⟨f body.line, relinedStmts f body.statements⟩
  | .break line => .break (f line)
  | .continue line => .continue (f line)
  | .seq body => .seq ⟨f body.line, relinedStmts f body.statements⟩
  | .par units => .par ⟨f units.line, relinedStmts f units.statements⟩
  | .block body => .block ⟨f body.line, relinedStmts f body.statements⟩
  | .expr line e => .expr (f line) (e.relined f)
  | .server c => .server (c.relined f)
  | .client c => .client (c.relined f)

/-- `Stmt.relined` element by element. -/
def relinedStmts (f : Nat → Nat) : List Stmt → List Stmt
  | [] => []
  | s :: ss => s.relined f :: relinedStmts f ss

end

/-- The function definition with other lines. -/
def FunctionDef.relined (f : Nat → Nat) (d : FunctionDef Stmt) : FunctionDef Stmt :=
  ⟨f d.line, d.name, d.params.map (Param.relined f), d.returns,
    ⟨f d.body.line, relinedStmts f d.body.statements⟩⟩

/-- The program with other lines. -/
def Program.relined (f : Nat → Nat) (p : Program) : Program :=
  ⟨relinedStmts f p.statements⟩

/-! ## Parts of a relined program -/

variable {f : Nat → Nat}

/-- Statements are moved one by one. -/
theorem relinedStmts_eq_map (f : Nat → Nat) (ss : List Stmt) :
    relinedStmts f ss = ss.map (Stmt.relined f) := by
  induction ss with
  | nil => rfl
  | cons s ss ih => rw [relinedStmts, ih, List.map_cons]

/-- An expression stands on its moved line. -/
@[simp] theorem Expr.line_relined (f : Nat → Nat) (e : Expr) : (e.relined f).line = f e.line := by
  cases e <;> rfl

/-- So does a statement. -/
@[simp] theorem Stmt.line_relined (f : Nat → Nat) (s : Stmt) : (s.relined f).line = f s.line := by
  cases s with
  | branch line c yes no? => cases no? <;> rfl
  | _ => rfl

/-- Lines do not matter for how many arguments a function needs. -/
@[simp] theorem FunctionDef.required_relined (f : Nat → Nat) (d : FunctionDef Stmt) :
    (d.relined f).required = d.required := by
  have hparams : ∀ ps : List Param,
      ((ps.map (Param.relined f)).takeWhile (·.default?.isNone)).length =
        (ps.takeWhile (·.default?.isNone)).length := by
    intro ps
    have hdefault : (fun p : Param => p.default?.isNone) ∘ Param.relined f =
        fun p => p.default?.isNone := by
      funext p
      simp [Param.relined]
    rw [List.takeWhile_map, hdefault, List.length_map]
  exact hparams d.params

/-! ## Special maps -/

mutual

/-- With the same lines it is the same expression. -/
@[simp] theorem Expr.relined_id : ∀ e : Expr, e.relined id = e
  | .number _ _ | .text _ _ | .truth _ _ | .ident _ _ => rfl
  | .binary line op l r => by rw [Expr.relined, l.relined_id, r.relined_id, id]
  | .unary line op e => by rw [Expr.relined, e.relined_id, id]
  | .call line callee args => by rw [Expr.relined, relinedExprs_id args, id]
  | .index line base position => by rw [Expr.relined, base.relined_id, position.relined_id, id]
  | .array line items => by rw [Expr.relined, relinedExprs_id items, id]

/-- Moving nothing changes nothing in a list of expressions. -/
@[simp] theorem relinedExprs_id : ∀ es : List Expr, relinedExprs id es = es
  | [] => rfl
  | e :: es => by rw [relinedExprs, e.relined_id, relinedExprs_id es]

end

/-- The same for a target. -/
@[simp] theorem Target.relined_id (t : Target) : t.relined id = t := by
  cases t <;> simp [relined]

/-- The same for an assignment. -/
@[simp] theorem Assignment.relined_id (a : Assignment) : a.relined id = a := by
  simp [relined]

/-- The same for parameters. -/
@[simp] theorem Param.relined_id : Param.relined id = id := by
  funext p
  have hdefault : Expr.relined id = id := funext Expr.relined_id
  simp [relined, hdefault]

mutual

/-- With the same lines it is the same statement. -/
@[simp] theorem Stmt.relined_id : ∀ s : Stmt, s.relined id = s
  | .declare _ _ _ _ | .return _ _ | .expr _ _ | .assign _ | .break _ | .continue _ => by
    simp [Stmt.relined]
  | .function d => by simp [Stmt.relined, relinedStmts_id d.body.statements]
  | .branch _ _ yes none => by simp [Stmt.relined, relinedStmts_id yes.statements]
  | .branch _ _ yes (some no) => by
    simp [Stmt.relined, relinedStmts_id yes.statements, relinedStmts_id no.statements]
  | .while _ _ body | .seq body | .par body | .block body => by
    simp [Stmt.relined, relinedStmts_id body.statements]
  | .for _ init _ _ body => by simp [Stmt.relined, init.relined_id, relinedStmts_id body.statements]
  | .server c => by simp [Stmt.relined, ServerChannel.relined]
  | .client c => by simp [Stmt.relined, ClientChannel.relined]

/-- The same for statements in a list. -/
@[simp] theorem relinedStmts_id : ∀ ss : List Stmt, relinedStmts id ss = ss
  | [] => rfl
  | s :: ss => by rw [relinedStmts, s.relined_id, relinedStmts_id ss]

end

/-- The same for a definition. -/
@[simp] theorem FunctionDef.relined_id (d : FunctionDef Stmt) : d.relined id = d := by
  simp [relined]

mutual

/-- With the line zero everywhere it is the expression without its lines. -/
theorem Expr.relined_zero : ∀ e : Expr, e.relined (fun _ => 0) = e.unlined
  | .number _ _ | .text _ _ | .truth _ _ | .ident _ _ => rfl
  | .binary _ _ l r => by rw [Expr.relined, Expr.unlined, l.relined_zero, r.relined_zero]
  | .unary _ _ e => by rw [Expr.relined, Expr.unlined, e.relined_zero]
  | .call _ _ args => by rw [Expr.relined, Expr.unlined, relinedExprs_zero args]
  | .index _ base position => by
    rw [Expr.relined, Expr.unlined, base.relined_zero, position.relined_zero]
  | .array _ items => by rw [Expr.relined, Expr.unlined, relinedExprs_zero items]

/-- Moving everything to line zero is forgetting the lines, here of expressions in a list. -/
theorem relinedExprs_zero : ∀ es : List Expr, relinedExprs (fun _ => 0) es = unlinedExprs es
  | [] => rfl
  | e :: es => by rw [relinedExprs, unlinedExprs, e.relined_zero, relinedExprs_zero es]

end

/-- The same for a target. -/
theorem Target.relined_zero (t : Target) : t.relined (fun _ => 0) = t.unlined := by
  cases t <;> simp [relined, unlined, Expr.relined_zero]

/-- The same for an assignment. -/
theorem Assignment.relined_zero (a : Assignment) : a.relined (fun _ => 0) = a.unlined := by
  simp [relined, unlined, Target.relined_zero, Expr.relined_zero]

/-- The same for parameters. -/
theorem Param.relined_zero : Param.relined (fun _ => 0) = Param.unlined := by
  funext p
  have hdefault : Expr.relined (fun _ => 0) = Expr.unlined := funext Expr.relined_zero
  simp [relined, unlined, hdefault]

mutual

/-- With the line zero everywhere it is the statement without its lines. -/
theorem Stmt.relined_zero : ∀ s : Stmt, s.relined (fun _ => 0) = s.unlined
  | .declare _ _ _ _ | .return _ _ | .expr _ _ => by
    simp [Stmt.relined, Stmt.unlined, Expr.relined_zero]
  | .assign _ => by simp [Stmt.relined, Stmt.unlined, Assignment.relined_zero]
  | .function d => by
    simp [Stmt.relined, Stmt.unlined, Param.relined_zero, relinedStmts_zero d.body.statements]
  | .branch _ _ yes none => by
    simp [Stmt.relined, Stmt.unlined, Expr.relined_zero, relinedStmts_zero yes.statements]
  | .branch _ _ yes (some no) => by
    simp [Stmt.relined, Stmt.unlined, Expr.relined_zero, relinedStmts_zero yes.statements,
      relinedStmts_zero no.statements]
  | .while _ _ body => by
    simp [Stmt.relined, Stmt.unlined, Expr.relined_zero, relinedStmts_zero body.statements]
  | .for _ init _ _ body => by
    simp [Stmt.relined, Stmt.unlined, init.relined_zero, Expr.relined_zero, Assignment.relined_zero,
      relinedStmts_zero body.statements]
  | .break _ | .continue _ => rfl
  | .seq body | .par body | .block body => by
    simp [Stmt.relined, Stmt.unlined, relinedStmts_zero body.statements]
  | .server c => by
    simp [Stmt.relined, Stmt.unlined, ServerChannel.relined, ServerChannel.unlined,
      Expr.relined_zero]
  | .client c => by
    simp [Stmt.relined, Stmt.unlined, ClientChannel.relined, ClientChannel.unlined,
      Expr.relined_zero]

/-- The same for statements in a list. -/
theorem relinedStmts_zero : ∀ ss : List Stmt, relinedStmts (fun _ => 0) ss = unlinedStmts ss
  | [] => rfl
  | s :: ss => by rw [relinedStmts, unlinedStmts, s.relined_zero, relinedStmts_zero ss]

end

/-- The same for a definition. -/
theorem FunctionDef.relined_zero (d : FunctionDef Stmt) : d.relined (fun _ => 0) = d.unlined := by
  rw [relined, unlined, Param.relined_zero, relinedStmts_zero, Block.unlined]

/-- The same for a program. -/
theorem Program.relined_zero (p : Program) : p.relined (fun _ => 0) = p.unlined := by
  rw [relined, unlined, relinedStmts_zero]

/-! ## Lines are not written -/

/-- Which operation an expression is does not depend on its lines. -/
@[simp] theorem Expr.topOp?_unlined (e : Expr) : e.unlined.topOp? = e.topOp? := by
  cases e <;> rfl

/-- Nor does the need for parentheses. -/
@[simp] theorem Expr.needsParens_unlined (parent : Nat) (isRight : Bool) (e : Expr) :
    Expr.needsParens parent isRight e.unlined = Expr.needsParens parent isRight e := by
  rw [needsParens, needsParens, topOp?_unlined]

mutual

/-- Nor does the text of an expression. -/
@[simp] theorem Expr.print_unlined : ∀ e : Expr, e.unlined.print = e.print
  | .number _ _ | .text _ _ | .truth _ _ | .ident _ _ => rfl
  | .binary _ op l r => by simp [Expr.unlined, Expr.print, l.print_unlined, r.print_unlined]
  | .unary _ op e => by simp [Expr.unlined, Expr.print, e.print_unlined]
  | .call _ _ args => by simp [Expr.unlined, Expr.print, Expr.printAll_unlined args]
  | .index _ base position => by
    simp [Expr.unlined, Expr.print, base.print_unlined, position.print_unlined]
  | .array _ items => by simp [Expr.unlined, Expr.print, Expr.printAll_unlined items]

/-- Nor does that of expressions in a list. -/
@[simp] theorem Expr.printAll_unlined :
    ∀ es : List Expr, Expr.printAll (unlinedExprs es) = Expr.printAll es
  | [] => rfl
  | [e] => e.print_unlined
  | e :: e' :: es => by
    have hrest := Expr.printAll_unlined (e' :: es)
    rw [unlinedExprs] at hrest
    simp [unlinedExprs, Expr.printAll, e.print_unlined, hrest]

end

/-- Nor does that of an expression that stands as an argument of a channel. -/
@[simp] theorem Expr.printPrimary_unlined (e : Expr) : e.unlined.printPrimary = e.printPrimary := by
  have hprint := e.print_unlined
  cases e <;> simp_all [printPrimary, unlined]

/-- Nor does that of an assignment. -/
@[simp] theorem Assignment.print_unlined (a : Assignment) : a.unlined.print = a.print := by
  obtain ⟨line, target, value⟩ := a
  cases target <;> simp [unlined, print, Target.unlined, Target.print]

/-- Nor does that of a parameter. -/
@[simp] theorem Param.print_unlined (p : Param) : p.unlined.print = p.print := by
  obtain ⟨line, name, type, default?⟩ := p
  cases default? <;> simp [unlined, print]

/-- Nor does that of a server channel. -/
theorem ServerChannel.print_unlined (c : ServerChannel) : c.unlined.print = c.print := by
  unfold ServerChannel.print ServerChannel.unlined
  rw [Expr.printPrimary_unlined, Expr.printPrimary_unlined, Expr.printPrimary_unlined]

/-- Nor does that of a client channel. -/
theorem ClientChannel.print_unlined (c : ClientChannel) : c.unlined.print = c.print := by
  unfold ClientChannel.print ClientChannel.unlined
  rw [Expr.printPrimary_unlined, Expr.printPrimary_unlined]

/-- As many statements are left. -/
@[simp] theorem isEmpty_unlinedStmts (ss : List Stmt) :
    (unlinedStmts ss).isEmpty = ss.isEmpty := by
  cases ss <;> rfl

mutual

/-- The text of a statement does not depend on its lines, at any indentation. -/
theorem Stmt.print_unlined : ∀ (s : Stmt) (indent : Nat), s.unlined.print indent = s.print indent
  | .declare _ _ _ _, _ | .return _ _, _ | .expr _ _, _ | .assign _, _ => by
    simp [Stmt.unlined, Stmt.print]
  | .break _, _ | .continue _, _ => rfl
  | .function d, indent => by
    have hparams : Param.print ∘ Param.unlined = Param.print := funext Param.print_unlined
    simp [Stmt.unlined, Stmt.print, hparams, printStmts_unlined d.body.statements]
  | .branch _ _ yes none, indent => by
    simp [Stmt.unlined, Stmt.print, printStmts_unlined yes.statements]
  | .branch _ _ yes (some no), indent => by
    simp [Stmt.unlined, Stmt.print, printStmts_unlined yes.statements,
      printStmts_unlined no.statements]
  | .while _ _ body, indent | .seq body, indent | .par body, indent | .block body, indent => by
    simp [Stmt.unlined, Stmt.print, printStmts_unlined body.statements]
  | .for _ init _ _ body, indent => by
    simp [Stmt.unlined, Stmt.print, init.print_unlined, printStmts_unlined body.statements]
  | .server c, _ => by rw [Stmt.unlined, Stmt.print, Stmt.print, c.print_unlined]
  | .client c, _ => by rw [Stmt.unlined, Stmt.print, Stmt.print, c.print_unlined]

/-- The same for statements in a list. -/
theorem printStmts_unlined :
    ∀ (ss : List Stmt) (indent : Nat), printStmts (unlinedStmts ss) indent = printStmts ss indent
  | [], _ => rfl
  | s :: ss, indent => by
    rw [unlinedStmts, printStmts, printStmts, s.print_unlined, printStmts_unlined ss]

end

/-- A definition stays one. -/
@[simp] theorem Stmt.isFunction_unlined (s : Stmt) : s.unlined.isFunction = s.isFunction := by
  cases s with
  | branch line c yes no? => cases no? <;> rfl
  | _ => rfl

/-- So the same empty lines stand between statements. -/
theorem printBehind_unlined (s : Stmt) (ss : List Stmt) :
    printBehind s.unlined (unlinedStmts ss) = printBehind s ss := by
  induction ss generalizing s with
  | nil => rfl
  | cons t ss ih => simp [unlinedStmts, printBehind, t.print_unlined, ih]

/-- **The layout of a program shows no line.** -/
theorem Program.print_unlined (p : Program) : p.unlined.print = p.print := by
  obtain ⟨ss⟩ := p
  cases ss with
  | nil => rfl
  | cons s ss => simp [unlined, unlinedStmts, print, s.print_unlined, printBehind_unlined]

end ParLang
