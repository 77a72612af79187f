import ParLang.Number.Shortest
import ParLang.Program.Basic
import ParLang.Source.Span
import ParLang.Text.Blank

/-!
# Writing programs

The canonical layout of a program: one statement a line, four blanks for each level of blocks, an
empty line around each function at the top, and parentheses only where the reading would differ
without them.
-/

namespace ParLang

/-- The text in parentheses if `needed` holds. -/
def parenthesise (needed : Bool) (text : String) : String :=
  if needed then "(" ++ text ++ ")" else text

namespace Expr

/-- The operator between operands at the top. -/
def topOp? : Expr → Option BinaryOp
  | .binary _ op _ _ => some op
  | _ => none

/-- An operand of an operator that binds with strength `parent` needs parentheses. Operators are
left-associative, so a right operand of equal strength needs them too. -/
def needsParens (parent : Nat) (isRight : Bool) (e : Expr) : Bool :=
  match e.topOp? with
  | some op => op.precedence < parent || (isRight && op.precedence == parent)
  | none => false

mutual

/-- The expression as it is written. -/
def print : Expr → String
  | .number _ value => Number.formatLiteral value
  | .text _ value => "\"" ++ value ++ "\""
  | .truth _ value => if value then "true" else "false"
  | .ident _ name => name
  | .binary _ op left right =>
    parenthesise (left.needsParens op.precedence false) left.print ++ " " ++ op.symbol ++ " " ++
      parenthesise (right.needsParens op.precedence true) right.print
  | .unary _ op operand => op.symbol ++ parenthesise operand.topOp?.isSome operand.print
  | .call _ callee args => callee ++ "(" ++ printAll args ++ ")"
  | .index _ base position => base.print ++ "[" ++ position.print ++ "]"
  | .array _ items => "[" ++ printAll items ++ "]"

/-- The expressions with commas between them. -/
def printAll : List Expr → String
  | [] => ""
  | [e] => e.print
  | e :: rest => e.print ++ ", " ++ printAll rest

end

/-- The expression as an argument of a channel, which must be a primary. -/
def printPrimary (e : Expr) : String :=
  match e with
  | .binary .. | .unary .. => "(" ++ e.print ++ ")"
  | _ => e.print

end Expr

/-- The target as it is written. -/
def Target.print : Target → String
  | .variable _ name => name
  | .cell base position => base.print ++ "[" ++ position.print ++ "]"

/-- The assignment as it is written. -/
def Assignment.print (a : Assignment) : String :=
  a.target.print ++ " = " ++ a.value.print

/-- The parameter as it is written. -/
def Param.print (p : Param) : String :=
  p.name ++ ": " ++ p.type.text ++
    match p.default? with
    | some e => " = " ++ e.print
    | none => ""

/-- The server channel as it is written. -/
def ServerChannel.print (c : ServerChannel) : String :=
  "s_channel " ++ c.name ++ " \x7b " ++ c.handler ++ ", " ++ c.description.printPrimary ++ ", " ++
    c.host.printPrimary ++ ", " ++ c.port.printPrimary ++ " \x7d"

/-- The client channel as it is written. -/
def ClientChannel.print (c : ClientChannel) : String :=
  "c_channel " ++ c.name ++ " \x7b " ++ c.host.printPrimary ++ ", " ++ c.port.printPrimary ++
    " \x7d"

/-- The text without the blanks at its end. -/
def trimEnd (text : String) : String :=
  String.ofList (dropTrailing Text.isBlank text.toList)

/-- As many blanks. -/
def blanks (n : Nat) : String :=
  "".pushn ' ' n

/-- The blanks that a block adds in front of its lines. -/
def indentWidth : Nat := 4

/-- Braces at the given indent around lines that are already laid out. -/
def braces (indent : Nat) (isEmpty : Bool) (lines : String) : String :=
  if isEmpty then "\x7b \x7d" else "\x7b\n" ++ lines ++ blanks indent ++ "\x7d"

mutual

/-- The lines of a statement at the given indent. -/
def Stmt.print : Stmt → Nat → String
  | .declare _ name type value, indent =>
    blanks indent ++ name ++ ": " ++ type.text ++ " = " ++ value.print ++ "\n"
  | .assign a, indent => blanks indent ++ a.print ++ "\n"
  | .function d, indent =>
    blanks indent ++ "func " ++ d.name ++ "(" ++ String.intercalate ", " (d.params.map Param.print) ++
      ") -> " ++ d.returns.text ++ " " ++
      braces indent d.body.statements.isEmpty (printStmts d.body.statements (indent + indentWidth)) ++
      "\n"
  | .return _ value, indent => blanks indent ++ "return " ++ value.print ++ "\n"
  | .branch _ condition yes none, indent =>
    blanks indent ++ "if (" ++ condition.print ++ ") " ++
      braces indent yes.statements.isEmpty (printStmts yes.statements (indent + indentWidth)) ++ "\n"
  | .branch _ condition yes (some no), indent =>
    blanks indent ++ "if (" ++ condition.print ++ ") " ++
      braces indent yes.statements.isEmpty (printStmts yes.statements (indent + indentWidth)) ++
      " else " ++
      braces indent no.statements.isEmpty (printStmts no.statements (indent + indentWidth)) ++ "\n"
  | .while _ condition body, indent =>
    blanks indent ++ "while (" ++ condition.print ++ ") " ++
      braces indent body.statements.isEmpty (printStmts body.statements (indent + indentWidth)) ++
      "\n"
  | .for _ init condition update body, indent =>
    blanks indent ++ "for (" ++ trimEnd (init.print 0) ++ "; " ++ condition.print ++ "; " ++
      update.print ++ ") " ++
      braces indent body.statements.isEmpty (printStmts body.statements (indent + indentWidth)) ++
      "\n"
  | .break _, indent => blanks indent ++ "break\n"
  | .continue _, indent => blanks indent ++ "continue\n"
  | .seq body, indent =>
    blanks indent ++ "seq " ++
      braces indent body.statements.isEmpty (printStmts body.statements (indent + indentWidth)) ++
      "\n"
  | .par units, indent =>
    blanks indent ++ "par " ++
      braces indent units.statements.isEmpty (printStmts units.statements (indent + indentWidth)) ++
      "\n"
  | .block body, indent =>
    blanks indent ++
      braces indent body.statements.isEmpty (printStmts body.statements (indent + indentWidth)) ++
      "\n"
  | .expr _ value, indent => blanks indent ++ value.print ++ "\n"
  | .server c, indent => blanks indent ++ c.print ++ "\n"
  | .client c, indent => blanks indent ++ c.print ++ "\n"

/-- The lines of statements at the given indent. -/
def printStmts : List Stmt → Nat → String
  | [], _ => ""
  | s :: rest, indent => s.print indent ++ printStmts rest indent

end

/-- The statement defines a function. -/
def Stmt.isFunction : Stmt → Bool
  | .function _ => true
  | _ => false

/-- The lines of statements at the top, behind `previous`: an empty line keeps a function apart from
its neighbours. -/
def printBehind (previous : Stmt) : List Stmt → String
  | [] => ""
  | s :: rest =>
    (if previous.isFunction || s.isFunction then "\n" else "") ++ s.print 0 ++ printBehind s rest

/-- The program in its canonical layout. -/
def Program.print (p : Program) : String :=
  match p.statements with
  | [] => ""
  | s :: rest => s.print 0 ++ printBehind s rest

end ParLang
