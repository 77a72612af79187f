/-!
# Programs

The trees that a source text stands for. Every node carries the 1-based line it was read from, which
serves complaints only: `Program.alike` compares two programs and looks at no line.
-/

namespace ParLang

/-- A type as it is written: a word, or a type in brackets for an array of it. -/
inductive TypeExpr where
  | named (word : String)
  | array (inner : TypeExpr)
deriving DecidableEq, Inhabited

/-- The type as it is written. -/
def TypeExpr.text : TypeExpr → String
  | .named word => word
  | .array inner => "[" ++ inner.text ++ "]"

/-- The operators between two operands. -/
inductive BinaryOp where
  | add | sub | mul | div | rem | and | or | eq | notEq | lt | ltEq | gt | gtEq
deriving DecidableEq, Inhabited

namespace BinaryOp

/-- Every operator between two operands. -/
def all : List BinaryOp :=
  [.add, .sub, .mul, .div, .rem, .and, .or, .eq, .notEq, .lt, .ltEq, .gt, .gtEq]

/-- The operator as it is written. -/
def symbol : BinaryOp → String
  | .add => "+"
  | .sub => "-"
  | .mul => "*"
  | .div => "/"
  | .rem => "%"
  | .and => "&&"
  | .or => "||"
  | .eq => "=="
  | .notEq => "!="
  | .lt => "<"
  | .ltEq => "<="
  | .gt => ">"
  | .gtEq => ">="

/-- How tightly the operator binds; a higher number binds tighter. -/
def precedence : BinaryOp → Nat
  | .or => 1
  | .and => 2
  | .eq | .notEq => 3
  | .lt | .ltEq | .gt | .gtEq => 4
  | .add | .sub => 5
  | .mul | .div | .rem => 6

end BinaryOp

/-- The operators in front of one operand. -/
inductive UnaryOp where
  | neg | not
deriving DecidableEq, Inhabited

namespace UnaryOp

/-- Every operator in front of one operand. -/
def all : List UnaryOp :=
  [.neg, .not]

/-- The operator as it is written. -/
def symbol : UnaryOp → String
  | .neg => "-"
  | .not => "!"

end UnaryOp

/-- An expression. -/
inductive Expr where
  | number (line : Nat) (value : Float)
  | text (line : Nat) (value : String)
  | truth (line : Nat) (value : Bool)
  | ident (line : Nat) (name : String)
  | binary (line : Nat) (op : BinaryOp) (left right : Expr)
  | unary (line : Nat) (op : UnaryOp) (operand : Expr)
  | call (line : Nat) (callee : String) (args : List Expr)
  | index (line : Nat) (base position : Expr)
  | array (line : Nat) (items : List Expr)
deriving Inhabited

/-- The line of the node at the top. -/
def Expr.line : Expr → Nat
  | .number line _ | .text line _ | .truth line _ | .ident line _ | .binary line _ _ _
  | .unary line _ _ | .call line _ _ | .index line _ _ | .array line _ => line

/-- What an assignment changes: a variable, or a cell of an array. -/
inductive Target where
  | variable (line : Nat) (name : String)
  | cell (base position : Expr)
deriving Inhabited

/-- The assignment of a value to a target. -/
structure Assignment where
  line : Nat
  target : Target
  value : Expr
deriving Inhabited

/-- A parameter, which may have a default for calls that leave it out. -/
structure Param where
  line : Nat
  name : String
  type : TypeExpr
  default? : Option Expr
deriving Inhabited

/-- Statements in braces, with the line of the opening one. -/
structure Block (σ : Type) where
  line : Nat
  statements : List σ
deriving Inhabited

/-- A function definition over statements of type `σ`. -/
structure FunctionDef (σ : Type) where
  line : Nat
  name : String
  params : List Param
  returns : TypeExpr
  body : Block σ
deriving Inhabited

/-- How many leading parameters have no default, so that every call must supply them. -/
def FunctionDef.required {σ : Type} (d : FunctionDef σ) : Nat :=
  (d.params.takeWhile (·.default?.isNone)).length

/-- A channel on which the program is the server. -/
structure ServerChannel where
  line : Nat
  name : String
  handler : String
  description : Expr
  host : Expr
  port : Expr
deriving Inhabited

/-- A channel on which the program is the client. -/
structure ClientChannel where
  line : Nat
  name : String
  host : Expr
  port : Expr
deriving Inhabited

/-- A statement. -/
inductive Stmt where
  | declare (line : Nat) (name : String) (type : TypeExpr) (value : Expr)
  | assign (assignment : Assignment)
  | function (definition : FunctionDef Stmt)
  | return (line : Nat) (value : Expr)
  | branch (line : Nat) (condition : Expr) (yes : Block Stmt) (no? : Option (Block Stmt))
  | while (line : Nat) (condition : Expr) (body : Block Stmt)
  | for (line : Nat) (init : Stmt) (condition : Expr) (update : Assignment) (body : Block Stmt)
  | break (line : Nat)
  | continue (line : Nat)
  | seq (body : Block Stmt)
  | par (units : Block Stmt)
  | block (body : Block Stmt)
  | expr (line : Nat) (value : Expr)
  | server (channel : ServerChannel)
  | client (channel : ClientChannel)
deriving Inhabited

/-- The line of the node at the top. -/
def Stmt.line : Stmt → Nat
  | .declare line _ _ _ | .return line _ | .branch line _ _ _ | .while line _ _
  | .for line _ _ _ _ | .break line | .continue line | .expr line _ => line
  | .assign a => a.line
  | .function d => d.line
  | .seq b | .par b | .block b => b.line
  | .server c => c.line
  | .client c => c.line

/-- A program: its statements in order. -/
structure Program where
  statements : List Stmt
deriving Inhabited

/-! ## Comparison without lines -/

mutual

/-- The expressions differ at most in their lines. Number literals are compared as numbers. -/
def Expr.alike : Expr → Expr → Bool
  | .number _ x, .number _ y => x == y
  | .text _ s, .text _ t => s == t
  | .truth _ a, .truth _ b => a == b
  | .ident _ x, .ident _ y => x == y
  | .binary _ o l r, .binary _ o' l' r' => o == o' && l.alike l' && r.alike r'
  | .unary _ o e, .unary _ o' e' => o == o' && e.alike e'
  | .call _ f as, .call _ f' as' => f == f' && alikeExprs as as'
  | .index _ b p, .index _ b' p' => b.alike b' && p.alike p'
  | .array _ es, .array _ es' => alikeExprs es es'
  | _, _ => false

/-- `Expr.alike` element by element. -/
def alikeExprs : List Expr → List Expr → Bool
  | [], [] => true
  | e :: es, e' :: es' => e.alike e' && alikeExprs es es'
  | _, _ => false

end

/-- The targets differ at most in their lines. -/
def Target.alike : Target → Target → Bool
  | .variable _ x, .variable _ y => x == y
  | .cell b p, .cell b' p' => b.alike b' && p.alike p'
  | _, _ => false

/-- The assignments differ at most in their lines. -/
def Assignment.alike (a b : Assignment) : Bool :=
  a.target.alike b.target && a.value.alike b.value

/-- The parameters differ at most in their lines. -/
def Param.alike (p q : Param) : Bool :=
  p.name == q.name && p.type == q.type &&
    match p.default?, q.default? with
    | none, none => true
    | some d, some e => d.alike e
    | _, _ => false

/-- The server channels differ at most in their lines. -/
def ServerChannel.alike (c d : ServerChannel) : Bool :=
  c.name == d.name && c.handler == d.handler && c.description.alike d.description &&
    c.host.alike d.host && c.port.alike d.port

/-- The client channels differ at most in their lines. -/
def ClientChannel.alike (c d : ClientChannel) : Bool :=
  c.name == d.name && c.host.alike d.host && c.port.alike d.port

/-- The parameter lists differ at most in their lines. -/
def alikeParams : List Param → List Param → Bool
  | [], [] => true
  | p :: ps, q :: qs => p.alike q && alikeParams ps qs
  | _, _ => false

mutual

/-- The statements differ at most in their lines. -/
def Stmt.alike : Stmt → Stmt → Bool
  | .declare _ x t e, .declare _ x' t' e' => x == x' && t == t' && e.alike e'
  | .assign a, .assign a' => a.alike a'
  | .function d, .function d' =>
    d.name == d'.name && alikeParams d.params d'.params && d.returns == d'.returns &&
      alikeStmts d.body.statements d'.body.statements
  | .return _ e, .return _ e' => e.alike e'
  | .branch _ c y none, .branch _ c' y' none =>
    c.alike c' && alikeStmts y.statements y'.statements
  | .branch _ c y (some n), .branch _ c' y' (some n') =>
    c.alike c' && alikeStmts y.statements y'.statements &&
      alikeStmts n.statements n'.statements
  | .while _ c b, .while _ c' b' => c.alike c' && alikeStmts b.statements b'.statements
  | .for _ i c u b, .for _ i' c' u' b' =>
    i.alike i' && c.alike c' && u.alike u' && alikeStmts b.statements b'.statements
  | .break _, .break _ => true
  | .continue _, .continue _ => true
  | .seq b, .seq b' => alikeStmts b.statements b'.statements
  | .par b, .par b' => alikeStmts b.statements b'.statements
  | .block b, .block b' => alikeStmts b.statements b'.statements
  | .expr _ e, .expr _ e' => e.alike e'
  | .server c, .server c' => c.alike c'
  | .client c, .client c' => c.alike c'
  | _, _ => false

/-- `Stmt.alike` element by element. -/
def alikeStmts : List Stmt → List Stmt → Bool
  | [], [] => true
  | s :: ss, s' :: ss' => s.alike s' && alikeStmts ss ss'
  | _, _ => false

end

/-- The programs differ at most in their lines. -/
def Program.alike (p q : Program) : Bool :=
  alikeStmts p.statements q.statements

end ParLang
