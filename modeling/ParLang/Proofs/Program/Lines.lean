import ParLang.Number.Binary
import ParLang.Program.Basic

/-!
# Programs without their lines

`Program.unlined` sets every line of a program to zero, so that two programs that differ in nothing
but their lines have the same result. `Program.literals` lists the number literals of a program.
-/

namespace ParLang

/-! ## Lines -/

mutual

/-- The expression with all lines set to zero. -/
def Expr.unlined : Expr → Expr
  | .number _ x => .number 0 x
  | .text _ s => .text 0 s
  | .truth _ b => .truth 0 b
  | .ident _ x => .ident 0 x
  | .binary _ op l r => .binary 0 op l.unlined r.unlined
  | .unary _ op e => .unary 0 op e.unlined
  | .call _ f args => .call 0 f (unlinedExprs args)
  | .index _ base position => .index 0 base.unlined position.unlined
  | .array _ items => .array 0 (unlinedExprs items)

/-- `Expr.unlined` element by element. -/
def unlinedExprs : List Expr → List Expr
  | [] => []
  | e :: es => e.unlined :: unlinedExprs es

end

/-- The target with all lines set to zero. -/
def Target.unlined : Target → Target
  | .variable _ x => .variable 0 x
  | .cell base position => .cell base.unlined position.unlined

/-- The assignment with all lines set to zero. -/
def Assignment.unlined (a : Assignment) : Assignment :=
  ⟨0, a.target.unlined, a.value.unlined⟩

/-- The parameter with all lines set to zero. -/
def Param.unlined (p : Param) : Param :=
  ⟨0, p.name, p.type, p.default?.map Expr.unlined⟩

/-- The server channel with all lines set to zero. -/
def ServerChannel.unlined (c : ServerChannel) : ServerChannel :=
  ⟨0, c.name, c.handler, c.description.unlined, c.host.unlined, c.port.unlined⟩

/-- The client channel with all lines set to zero. -/
def ClientChannel.unlined (c : ClientChannel) : ClientChannel :=
  ⟨0, c.name, c.host.unlined, c.port.unlined⟩

mutual

/-- The statement with all lines set to zero. -/
def Stmt.unlined : Stmt → Stmt
  | .declare _ x t e => .declare 0 x t e.unlined
  | .assign a => .assign a.unlined
  | .function d =>
    .function ⟨0, d.name, d.params.map Param.unlined, d.returns, ⟨0, unlinedStmts d.body.statements⟩⟩
  | .return _ e => .return 0 e.unlined
  | .branch _ c yes none => .branch 0 c.unlined ⟨0, unlinedStmts yes.statements⟩ none
  | .branch _ c yes (some no) =>
    .branch 0 c.unlined ⟨0, unlinedStmts yes.statements⟩ (some ⟨0, unlinedStmts no.statements⟩)
  | .while _ c body => .while 0 c.unlined ⟨0, unlinedStmts body.statements⟩
  | .for _ init c update body =>
    .for 0 init.unlined c.unlined update.unlined ⟨0, unlinedStmts body.statements⟩
  | .break _ => .break 0
  | .continue _ => .continue 0
  | .seq body => .seq ⟨0, unlinedStmts body.statements⟩
  | .par units => .par ⟨0, unlinedStmts units.statements⟩
  | .block body => .block ⟨0, unlinedStmts body.statements⟩
  | .expr _ e => .expr 0 e.unlined
  | .server c => .server c.unlined
  | .client c => .client c.unlined

/-- `Stmt.unlined` element by element. -/
def unlinedStmts : List Stmt → List Stmt
  | [] => []
  | s :: ss => s.unlined :: unlinedStmts ss

end

/-- The block with all lines set to zero. -/
def Block.unlined (b : Block Stmt) : Block Stmt :=
  ⟨0, unlinedStmts b.statements⟩

/-- The function definition with all lines set to zero. -/
def FunctionDef.unlined (d : FunctionDef Stmt) : FunctionDef Stmt :=
  ⟨0, d.name, d.params.map Param.unlined, d.returns, d.body.unlined⟩

/-- The program with all lines set to zero. -/
def Program.unlined (p : Program) : Program :=
  ⟨unlinedStmts p.statements⟩

/-! ## Number literals -/

mutual

/-- The number literals of an expression. -/
def Expr.literals : Expr → List Float
  | .number _ x => [x]
  | .text _ _ | .truth _ _ | .ident _ _ => []
  | .binary _ _ l r => l.literals ++ r.literals
  | .unary _ _ e => e.literals
  | .call _ _ args => literalsIn args
  | .index _ base position => base.literals ++ position.literals
  | .array _ items => literalsIn items

/-- The number literals of expressions. -/
def literalsIn : List Expr → List Float
  | [] => []
  | e :: es => e.literals ++ literalsIn es

end

/-- The number literals of a target. -/
def Target.literals : Target → List Float
  | .variable _ _ => []
  | .cell base position => base.literals ++ position.literals

/-- The number literals of an assignment. -/
def Assignment.literals (a : Assignment) : List Float :=
  a.target.literals ++ a.value.literals

/-- The number literals of a parameter: those of its default. -/
def Param.literals (p : Param) : List Float :=
  match p.default? with
  | some e => e.literals
  | none => []

mutual

/-- The number literals of a statement. -/
def Stmt.literals : Stmt → List Float
  | .declare _ _ _ e | .return _ e | .expr _ e => e.literals
  | .assign a => a.literals
  | .function d => d.params.flatMap Param.literals ++ literalsOf d.body.statements
  | .branch _ c yes none => c.literals ++ literalsOf yes.statements
  | .branch _ c yes (some no) =>
    c.literals ++ literalsOf yes.statements ++ literalsOf no.statements
  | .while _ c body => c.literals ++ literalsOf body.statements
  | .for _ init c update body =>
    init.literals ++ c.literals ++ update.literals ++ literalsOf body.statements
  | .break _ | .continue _ => []
  | .seq body | .par body | .block body => literalsOf body.statements
  | .server c => c.description.literals ++ c.host.literals ++ c.port.literals
  | .client c => c.host.literals ++ c.port.literals

/-- The number literals of statements. -/
def literalsOf : List Stmt → List Float
  | [] => []
  | s :: ss => s.literals ++ literalsOf ss

end

/-- The number literals of a program. -/
def Program.literals (p : Program) : List Float :=
  literalsOf p.statements

/-- The number is neither infinite nor a non-number. -/
def Number.isFinite (x : Float) : Bool :=
  match Number.decode x with
  | .finite _ _ _ => true
  | _ => false

end ParLang
