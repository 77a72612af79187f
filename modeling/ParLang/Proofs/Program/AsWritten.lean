import ParLang.Program.Printer
import ParLang.Proofs.Program.Lines

/-!
# Programs as they are written

The text of an infinite number is a word, and a word is a name and no number. `Program.asWritten` is the
program that the text of a program speaks of: it has names in the place of the literals that are not
finite. It has the same text (`Program.print_asWritten`), and where all literals are finite it is the
program itself (`Program.asWritten_of_finite`).
-/

namespace ParLang

/-! ## Definitions -/

mutual

/-- The expression with names in the place of the literals that are not finite. -/
def Expr.asWritten : Expr → Expr
  | .number line x =>
    if Number.isFinite x then .number line x else .ident line (Number.formatLiteral x)
  | .text line s => .text line s
  | .truth line b => .truth line b
  | .ident line x => .ident line x
  | .binary line op l r => .binary line op l.asWritten r.asWritten
  | .unary line op e => .unary line op e.asWritten
  | .call line callee args => .call line callee (asWrittenExprs args)
  | .index line base position => .index line base.asWritten position.asWritten
  | .array line items => .array line (asWrittenExprs items)

/-- `Expr.asWritten` element by element. -/
def asWrittenExprs : List Expr → List Expr
  | [] => []
  | e :: es => e.asWritten :: asWrittenExprs es

end

/-- The target as it is written. -/
def Target.asWritten : Target → Target
  | .variable line x => .variable line x
  | .cell base position => .cell base.asWritten position.asWritten

/-- The assignment as it is written. -/
def Assignment.asWritten (a : Assignment) : Assignment :=
  ⟨a.line, a.target.asWritten, a.value.asWritten⟩

/-- The parameter as it is written. -/
def Param.asWritten (p : Param) : Param :=
  ⟨p.line, p.name, p.type, p.default?.map Expr.asWritten⟩

/-- The server channel as it is written. -/
def ServerChannel.asWritten (c : ServerChannel) : ServerChannel :=
  ⟨c.line, c.name, c.handler, c.description.asWritten, c.host.asWritten, c.port.asWritten⟩

/-- The client channel as it is written. -/
def ClientChannel.asWritten (c : ClientChannel) : ClientChannel :=
  ⟨c.line, c.name, c.host.asWritten, c.port.asWritten⟩

mutual

/-- The statement as it is written. -/
def Stmt.asWritten : Stmt → Stmt
  | .declare line x t e => .declare line x t e.asWritten
  | .assign a => .assign a.asWritten
  | .function d =>
    .function ⟨d.line, d.name, d.params.map Param.asWritten, d.returns,
      ⟨d.body.line, asWrittenStmts d.body.statements⟩⟩
  | .return line e => .return line e.asWritten
  | .branch line c yes none =>
    .branch line c.asWritten ⟨yes.line, asWrittenStmts yes.statements⟩ none
  | .branch line c yes (some no) =>
    .branch line c.asWritten ⟨yes.line, asWrittenStmts yes.statements⟩
      (some ⟨no.line, asWrittenStmts no.statements⟩)
  | .while line c body => .while line c.asWritten ⟨body.line, asWrittenStmts body.statements⟩
  | .for line init c update body =>
    .for line init.asWritten c.asWritten update.asWritten
      ⟨body.line, asWrittenStmts body.statements⟩
  | .break line => .break line
  | .continue line => .continue line
  | .seq body => .seq ⟨body.line, asWrittenStmts body.statements⟩
  | .par units => .par ⟨units.line, asWrittenStmts units.statements⟩
  | .block body => .block ⟨body.line, asWrittenStmts body.statements⟩
  | .expr line e => .expr line e.asWritten
  | .server c => .server c.asWritten
  | .client c => .client c.asWritten

/-- `Stmt.asWritten` element by element. -/
def asWrittenStmts : List Stmt → List Stmt
  | [] => []
  | s :: ss => s.asWritten :: asWrittenStmts ss

end

/-- The program as it is written. -/
def Program.asWritten (p : Program) : Program :=
  ⟨asWrittenStmts p.statements⟩

/-! ## Finite literals -/

mutual

/-- What is written of a finite number is read back as it, so an expression with finite literals is as it is
written. -/
theorem Expr.asWritten_of_finite : ∀ {e : Expr}, (∀ x ∈ e.literals, Number.isFinite x) →
    e.asWritten = e
  | .number _ x, h => if_pos (h x List.mem_cons_self)
  | .text _ _, _ | .truth _ _, _ | .ident _ _, _ => rfl
  | .binary _ _ l r, h => by
    simp only [Expr.literals, List.forall_mem_append] at h
    rw [Expr.asWritten, Expr.asWritten_of_finite h.1, Expr.asWritten_of_finite h.2]
  | .unary _ _ e, h => by rw [Expr.asWritten, Expr.asWritten_of_finite (e := e) h]
  | .call _ _ args, h => by rw [Expr.asWritten, asWrittenExprs_of_finite h]
  | .index _ base position, h => by
    simp only [Expr.literals, List.forall_mem_append] at h
    rw [Expr.asWritten, Expr.asWritten_of_finite h.1, Expr.asWritten_of_finite h.2]
  | .array _ items, h => by rw [Expr.asWritten, asWrittenExprs_of_finite h]

/-- The same for expressions in a list. -/
theorem asWrittenExprs_of_finite : ∀ {es : List Expr}, (∀ x ∈ literalsIn es, Number.isFinite x) →
    asWrittenExprs es = es
  | [], _ => rfl
  | e :: es, h => by
    simp only [literalsIn, List.forall_mem_append] at h
    rw [asWrittenExprs, Expr.asWritten_of_finite h.1, asWrittenExprs_of_finite h.2]

end

/-- The same for a target. -/
theorem Target.asWritten_of_finite {t : Target} (h : ∀ x ∈ t.literals, Number.isFinite x) :
    t.asWritten = t := by
  cases t with
  | «variable» => rfl
  | cell base position =>
    simp only [literals, List.forall_mem_append] at h
    rw [asWritten, Expr.asWritten_of_finite h.1, Expr.asWritten_of_finite h.2]

/-- The same for an assignment. -/
theorem Assignment.asWritten_of_finite {a : Assignment} (h : ∀ x ∈ a.literals, Number.isFinite x) :
    a.asWritten = a := by
  simp only [literals, List.forall_mem_append] at h
  rw [asWritten, Target.asWritten_of_finite h.1, Expr.asWritten_of_finite h.2]

/-- The same for parameters. -/
theorem Param.map_asWritten_of_finite {ps : List Param}
    (h : ∀ x ∈ ps.flatMap Param.literals, Number.isFinite x) : ps.map Param.asWritten = ps := by
  refine (List.map_congr_left fun p hp => ?_).trans ps.map_id
  obtain ⟨line, name, type, default?⟩ := p
  cases default? with
  | none => rfl
  | some e =>
    have he : ∀ x ∈ e.literals, Number.isFinite x :=
      fun x hx => h x (List.mem_flatMap.mpr ⟨_, hp, hx⟩)
    rw [asWritten, Option.map_some, Expr.asWritten_of_finite he, id]

/-- The same for a server channel. -/
theorem ServerChannel.asWritten_of_finite {c : ServerChannel}
    (h : ∀ x ∈ (Stmt.server c).literals, Number.isFinite x) : c.asWritten = c := by
  simp only [Stmt.literals, List.forall_mem_append] at h
  rw [asWritten, Expr.asWritten_of_finite h.1.1, Expr.asWritten_of_finite h.1.2,
    Expr.asWritten_of_finite h.2]

/-- The same for a client channel. -/
theorem ClientChannel.asWritten_of_finite {c : ClientChannel}
    (h : ∀ x ∈ (Stmt.client c).literals, Number.isFinite x) : c.asWritten = c := by
  simp only [Stmt.literals, List.forall_mem_append] at h
  rw [asWritten, Expr.asWritten_of_finite h.1, Expr.asWritten_of_finite h.2]

mutual

/-- The same for a statement, and all that is inside it. -/
theorem Stmt.asWritten_of_finite : ∀ {s : Stmt}, (∀ x ∈ s.literals, Number.isFinite x) →
    s.asWritten = s
  | .declare _ _ _ _, h | .return _ _, h | .expr _ _, h => by
    rw [Stmt.asWritten, Expr.asWritten_of_finite h]
  | .assign _, h => by rw [Stmt.asWritten, Assignment.asWritten_of_finite h]
  | .function d, h => by
    simp only [Stmt.literals, List.forall_mem_append] at h
    rw [Stmt.asWritten, Param.map_asWritten_of_finite h.1, asWrittenStmts_of_finite h.2]
  | .branch _ c yes none, h => by
    simp only [Stmt.literals, List.forall_mem_append] at h
    rw [Stmt.asWritten, Expr.asWritten_of_finite h.1, asWrittenStmts_of_finite h.2]
  | .branch _ c yes (some no), h => by
    simp only [Stmt.literals, List.forall_mem_append] at h
    rw [Stmt.asWritten, Expr.asWritten_of_finite h.1.1, asWrittenStmts_of_finite h.1.2,
      asWrittenStmts_of_finite h.2]
  | .while _ c body, h => by
    simp only [Stmt.literals, List.forall_mem_append] at h
    rw [Stmt.asWritten, Expr.asWritten_of_finite h.1, asWrittenStmts_of_finite h.2]
  | .for _ init c update body, h => by
    simp only [Stmt.literals, List.forall_mem_append] at h
    rw [Stmt.asWritten, Stmt.asWritten_of_finite h.1.1.1, Expr.asWritten_of_finite h.1.1.2,
      Assignment.asWritten_of_finite h.1.2, asWrittenStmts_of_finite h.2]
  | .break _, _ | .continue _, _ => rfl
  | .seq _, h | .par _, h | .block _, h => by rw [Stmt.asWritten, asWrittenStmts_of_finite h]
  | .server _, h => by rw [Stmt.asWritten, ServerChannel.asWritten_of_finite h]
  | .client _, h => by rw [Stmt.asWritten, ClientChannel.asWritten_of_finite h]

/-- The same for statements in a list. -/
theorem asWrittenStmts_of_finite : ∀ {ss : List Stmt}, (∀ x ∈ literalsOf ss, Number.isFinite x) →
    asWrittenStmts ss = ss
  | [], _ => rfl
  | s :: ss, h => by
    simp only [literalsOf, List.forall_mem_append] at h
    rw [asWrittenStmts, Stmt.asWritten_of_finite h.1, asWrittenStmts_of_finite h.2]

end

/-- A program whose literals are finite is as it is written. -/
theorem Program.asWritten_of_finite {p : Program} (h : ∀ x ∈ p.literals, Number.isFinite x) :
    p.asWritten = p := by
  rw [asWritten, asWrittenStmts_of_finite h]

/-! ## The text -/

/-- What is written for a literal is no operation. -/
@[simp] theorem Expr.topOp?_asWritten (e : Expr) : e.asWritten.topOp? = e.topOp? := by
  cases e with
  | number => rw [Expr.asWritten]; split <;> rfl
  | _ => rfl

/-- So an operand needs its parentheses before and after. -/
@[simp] theorem Expr.needsParens_asWritten (parent : Nat) (isRight : Bool) (e : Expr) :
    Expr.needsParens parent isRight e.asWritten = Expr.needsParens parent isRight e := by
  rw [needsParens, needsParens, topOp?_asWritten]

mutual

/-- An expression and what is written of it have the same text. -/
@[simp] theorem Expr.print_asWritten : ∀ e : Expr, e.asWritten.print = e.print
  | .number _ _ => by rw [Expr.asWritten]; split <;> rfl
  | .text _ _ | .truth _ _ | .ident _ _ => rfl
  | .binary _ op l r => by simp [Expr.asWritten, Expr.print, l.print_asWritten, r.print_asWritten]
  | .unary _ op e => by simp [Expr.asWritten, Expr.print, e.print_asWritten]
  | .call _ _ args => by simp [Expr.asWritten, Expr.print, Expr.printAll_asWritten args]
  | .index _ base position => by
    simp [Expr.asWritten, Expr.print, base.print_asWritten, position.print_asWritten]
  | .array _ items => by simp [Expr.asWritten, Expr.print, Expr.printAll_asWritten items]

/-- The same for expressions in a list. -/
@[simp] theorem Expr.printAll_asWritten :
    ∀ es : List Expr, Expr.printAll (asWrittenExprs es) = Expr.printAll es
  | [] => rfl
  | [e] => e.print_asWritten
  | e :: e' :: es => by
    have hrest := Expr.printAll_asWritten (e' :: es)
    rw [asWrittenExprs] at hrest
    simp [asWrittenExprs, Expr.printAll, e.print_asWritten, hrest]

end

/-- The same for an expression that stands as an argument of a channel. -/
@[simp] theorem Expr.printPrimary_asWritten (e : Expr) : e.asWritten.printPrimary = e.printPrimary := by
  have hprint := e.print_asWritten
  cases e with
  | number => rw [Expr.asWritten]; split <;> rfl
  | _ => simp_all [printPrimary, asWritten]

/-- The same for an assignment. -/
@[simp] theorem Assignment.print_asWritten (a : Assignment) : a.asWritten.print = a.print := by
  obtain ⟨line, target, value⟩ := a
  cases target <;> simp [asWritten, print, Target.asWritten, Target.print]

/-- The same for a parameter. -/
@[simp] theorem Param.print_asWritten (p : Param) : p.asWritten.print = p.print := by
  obtain ⟨line, name, type, default?⟩ := p
  cases default? <;> simp [asWritten, print]

/-- The same for a server channel. -/
theorem ServerChannel.print_asWritten (c : ServerChannel) : c.asWritten.print = c.print := by
  unfold ServerChannel.print ServerChannel.asWritten
  rw [Expr.printPrimary_asWritten, Expr.printPrimary_asWritten, Expr.printPrimary_asWritten]

/-- The same for a client channel. -/
theorem ClientChannel.print_asWritten (c : ClientChannel) : c.asWritten.print = c.print := by
  unfold ClientChannel.print ClientChannel.asWritten
  rw [Expr.printPrimary_asWritten, Expr.printPrimary_asWritten]

/-- As many statements are written. -/
@[simp] theorem isEmpty_asWrittenStmts (ss : List Stmt) :
    (asWrittenStmts ss).isEmpty = ss.isEmpty := by
  cases ss <;> rfl

mutual

/-- The same for a statement at any indentation. -/
theorem Stmt.print_asWritten : ∀ (s : Stmt) (indent : Nat), s.asWritten.print indent = s.print indent
  | .declare _ _ _ _, _ | .return _ _, _ | .expr _ _, _ | .assign _, _ => by
    simp [Stmt.asWritten, Stmt.print]
  | .break _, _ | .continue _, _ => rfl
  | .function d, indent => by
    have hparams : Param.print ∘ Param.asWritten = Param.print := funext Param.print_asWritten
    simp [Stmt.asWritten, Stmt.print, hparams, printStmts_asWritten d.body.statements]
  | .branch _ _ yes none, indent => by
    simp [Stmt.asWritten, Stmt.print, printStmts_asWritten yes.statements]
  | .branch _ _ yes (some no), indent => by
    simp [Stmt.asWritten, Stmt.print, printStmts_asWritten yes.statements,
      printStmts_asWritten no.statements]
  | .while _ _ body, indent | .seq body, indent | .par body, indent | .block body, indent => by
    simp [Stmt.asWritten, Stmt.print, printStmts_asWritten body.statements]
  | .for _ init _ _ body, indent => by
    simp [Stmt.asWritten, Stmt.print, init.print_asWritten, printStmts_asWritten body.statements]
  | .server c, _ => by rw [Stmt.asWritten, Stmt.print, Stmt.print, c.print_asWritten]
  | .client c, _ => by rw [Stmt.asWritten, Stmt.print, Stmt.print, c.print_asWritten]

/-- The same for statements in a list. -/
theorem printStmts_asWritten :
    ∀ (ss : List Stmt) (indent : Nat), printStmts (asWrittenStmts ss) indent = printStmts ss indent
  | [], _ => rfl
  | s :: ss, indent => by
    rw [asWrittenStmts, printStmts, printStmts, s.print_asWritten, printStmts_asWritten ss]

end

/-- A definition is written as one. -/
@[simp] theorem Stmt.isFunction_asWritten (s : Stmt) : s.asWritten.isFunction = s.isFunction := by
  cases s with
  | branch line c yes no? => cases no? <;> rfl
  | _ => rfl

/-- So the same empty lines stand between the statements. -/
theorem printBehind_asWritten (s : Stmt) (ss : List Stmt) :
    printBehind s.asWritten (asWrittenStmts ss) = printBehind s ss := by
  induction ss generalizing s with
  | nil => rfl
  | cons t ss ih => simp [asWrittenStmts, printBehind, t.print_asWritten, ih]

/-- **The program as it is written has the same text.** -/
theorem Program.print_asWritten (p : Program) : p.asWritten.print = p.print := by
  obtain ⟨ss⟩ := p
  cases ss with
  | nil => rfl
  | cons s ss => simp [asWritten, asWrittenStmts, print, s.print_asWritten, printBehind_asWritten]

end ParLang
