import ParLang.Token.Lexer

/-!
# Complaints about a token list

Why a token list is no program. Each cause has one wording, and a complaint says where it stands.
-/

namespace ParLang

/-- The token as a complaint shows what was found. -/
def Token.shown (t : Token) : String :=
  match t.kind with
  | .eof => "end of input"
  | .string => "\"" ++ t.lexeme ++ "\""
  | _ => "'" ++ t.lexeme ++ "'"

/-- Why a token list is no program; `found` is the token at which reading stopped. -/
inductive SyntaxError.Cause where
  | expected (kind : Token.Kind) (found : Token)
  | expectedAssign (found : Token)
  | expectedAfterName (found : Token)
  | expectedType (found : Token)
  | expectedExpression (found : Token)
  | expectedDigits (found : Token)
  | invalidNumber (text : String)
  | updateNotAssignment
  /-- The step budget ran out. The budget of `parseResults` covers every token list. -/
  | budgetSpent
deriving DecidableEq, Inhabited

/-- A complaint with the line and the region it concerns. -/
structure SyntaxError where
  cause : SyntaxError.Cause
  line : Nat
  span : Span
deriving DecidableEq, Inhabited

/-- The wording of each cause. -/
def SyntaxError.Cause.message : SyntaxError.Cause → String
  | .expected kind found => "Expected " ++ kind.describe ++ ", found: " ++ found.shown
  | .expectedAssign found => "Expected '=' after indexed target, found: " ++ found.shown
  | .expectedAfterName found =>
    "Expected ':', '=', '[', or '(' after identifier, found: " ++ found.shown
  | .expectedType found => "Expected type, found: " ++ found.shown
  | .expectedExpression found => "Expected expression, found: " ++ found.shown
  | .expectedDigits found => "Expected digits after '.', found: " ++ found.shown
  | .invalidNumber text => "Invalid number literal '" ++ text ++ "'"
  | .updateNotAssignment => "for-loop update must be an assignment"
  | .budgetSpent => "too many tokens"

/-- The complaint with its line. -/
def SyntaxError.message (e : SyntaxError) : String :=
  lineMessage e.line e.cause.message

/-- Why a source is no program: a fault in its characters, or one in the order of its tokens. -/
inductive ParseError where
  | lexical (e : LexError)
  | grammar (e : SyntaxError)
deriving DecidableEq, Inhabited

namespace ParseError

/-- The complaint with its line. -/
def message : ParseError → String
  | .lexical e => e.message
  | .grammar e => e.message

/-- The line of the complaint. -/
def line : ParseError → Nat
  | .lexical e => e.line
  | .grammar e => e.line

/-- The region of the complaint. -/
def span : ParseError → Span
  | .lexical e => e.span
  | .grammar e => e.span

end ParseError

end ParLang
