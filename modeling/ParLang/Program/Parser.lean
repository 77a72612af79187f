import ParLang.Number.Reading
import ParLang.Program.Basic
import ParLang.Program.SyntaxError

/-!
# Reading programs

A recursive-descent reader with one token of lookahead. Tokens are pulled one at a time, so a fault in
the characters shows only when reading gets there, and behind the last token there is always an end
token. The functions that call themselves count down a step budget; `parseResults` starts them with
more steps than its tokens can use up.

Binary operators are read by climbing: `binary n least` reads an expression whose operators, outside
parentheses, bind at least as tightly as `least`, and every operator is left-associative.
-/

namespace ParLang

/-- What a reader has before it: the token to be read next, and what follows that token. -/
structure TokenStream where
  lookahead : Token
  rest : List (Except LexError Token)

namespace TokenStream

/-- The token behind the last one. -/
def endToken : Token :=
  ⟨.eof, "", 0, ⟨0, 0⟩⟩

/-- The stream over a list of results, unless the first of them is a fault. -/
def ofResults : List (Except LexError Token) → Except LexError TokenStream
  | [] => .ok ⟨endToken, []⟩
  | .ok t :: rest => .ok ⟨t, rest⟩
  | .error e :: _ => .error e

end TokenStream

/-- A reader takes tokens from a stream, or fails. -/
abbrev Reader (α : Type) := StateT TokenStream (Except ParseError) α

namespace Reader

/-- The token to be read next. -/
def peek : Reader Token := fun s => .ok (s.lookahead, s)

/-- Takes the token to be read next and pulls the one behind it. -/
def advance : Reader Token := fun s =>
  match TokenStream.ofResults s.rest with
  | .ok s' => .ok (s.lookahead, s')
  | .error e => .error (.lexical e)

/-- Fails with the complaint that the next token gives rise to. -/
def reject {α : Type} (cause : Token → SyntaxError.Cause) : Reader α := fun s =>
  .error (.grammar ⟨cause s.lookahead, s.lookahead.line, s.lookahead.span⟩)

/-- The next token has the kind. -/
def check (kind : Token.Kind) : Reader Bool := fun s =>
  .ok (s.lookahead.kind == kind, s)

/-- Takes a token of the kind. -/
def expect (kind : Token.Kind) : Reader Token := do
  if ← check kind then advance else reject (.expected kind)

/-- Takes a token of the kind if one is next, and tells whether it did. -/
def accept (kind : Token.Kind) : Reader Bool := do
  if ← check kind then
    let _ ← advance
    return true
  else return false

/-- Fails because the step budget ran out. -/
def spent {α : Type} : Reader α :=
  reject fun _ => .budgetSpent

/-- The operator between operands that a token is. -/
def binaryOp? : Token.Kind → Option BinaryOp
  | .disj => some .or
  | .conj => some .and
  | .equal => some .eq
  | .notEqual => some .notEq
  | .greater => some .gt
  | .less => some .lt
  | .greaterEqual => some .gtEq
  | .lessEqual => some .ltEq
  | .plus => some .add
  | .minus => some .sub
  | .star => some .mul
  | .slash => some .div
  | .percent => some .rem
  | _ => none

/-- The operator in front of an operand that a token is. -/
def unaryOp? : Token.Kind → Option UnaryOp
  | .minus => some .neg
  | .bang => some .not
  | _ => none

/-! ## Expressions -/

/-- The text of a number that starts with `whole`: behind a point there must be more digits. -/
def numberText (whole : String) : Reader String := do
  if ← accept .dot then
    if ← check .number then
      return whole ++ "." ++ (← advance).lexeme
    else reject .expectedDigits
  else return whole

/-- A number. Its line and region are those of its first token. -/
def number : Reader Expr := do
  let whole ← expect .number
  let text ← numberText whole.lexeme
  match Number.readDecimal? text with
  | some value => return .number whole.line value
  | none => throw (.grammar ⟨.invalidNumber text, whole.line, whole.span⟩)

mutual

/-- An expression. -/
def expression : Nat → Reader Expr
  | 0 => spent
  | n + 1 => binary n 1

/-- An expression whose operators bind at least as tightly as `least`. -/
def binary : Nat → Nat → Reader Expr
  | 0, _ => spent
  | n + 1, least => do
    let left ← unary n
    climb n least left

/-- Extends `left` by operators that bind at least as tightly as `least`. -/
def climb : Nat → Nat → Expr → Reader Expr
  | 0, _, _ => spent
  | n + 1, least, left => do
    match binaryOp? (← peek).kind with
    | some op =>
      if least ≤ op.precedence then
        let sign ← advance
        let right ← binary n (op.precedence + 1)
        climb n least (.binary sign.line op left right)
      else return left
    | none => return left

/-- A primary behind any number of operators. -/
def unary : Nat → Reader Expr
  | 0 => spent
  | n + 1 => do
    match unaryOp? (← peek).kind with
    | some op =>
      let sign ← advance
      return .unary sign.line op (← unary n)
    | none => primary n

/-- A literal, a name with at most one call or one index, an array, or a parenthesised expression. -/
def primary : Nat → Reader Expr
  | 0 => spent
  | n + 1 => do
    match (← peek).kind with
    | .number => number
    | .string =>
      let t ← advance
      return .text t.line t.lexeme
    | .trueWord =>
      let t ← advance
      return .truth t.line true
    | .falseWord =>
      let t ← advance
      return .truth t.line false
    | .identifier =>
      let name ← advance
      if ← check .leftParen then
        return .call name.line name.lexeme (← arguments n)
      if ← accept .leftBracket then
        let position ← expression n
        let _ ← expect .rightBracket
        return .index name.line (.ident name.line name.lexeme) position
      return .ident name.line name.lexeme
    | .leftBracket =>
      let opening ← advance
      let items ← if ← check .rightBracket then pure [] else expressions n
      let _ ← expect .rightBracket
      return .array opening.line items
    | .leftParen =>
      let _ ← advance
      let inner ← expression n
      let _ ← expect .rightParen
      return inner
    | _ => reject .expectedExpression

/-- Arguments in parentheses. -/
def arguments : Nat → Reader (List Expr)
  | 0 => spent
  | n + 1 => do
    let _ ← expect .leftParen
    if ← accept .rightParen then return []
    let args ← expressions n
    let _ ← expect .rightParen
    return args

/-- One or more expressions with commas between them. -/
def expressions : Nat → Reader (List Expr)
  | 0 => spent
  | n + 1 => do
    let first ← expression n
    if ← accept .comma then
      return first :: (← expressions n)
    return [first]

end

/-! ## Types and simple statements -/

/-- A type. -/
def typeExpr : Nat → Reader TypeExpr
  | 0 => spent
  | n + 1 => do
    if ← accept .leftBracket then
      let inner ← typeExpr n
      let _ ← expect .rightBracket
      return .array inner
    if ← check .typeName then
      return .named (← advance).lexeme
    reject .expectedType

/-- A target as the expression that reads it; an index takes the line of the name it starts from. -/
def targetExpr (line : Nat) : Target → Expr
  | .variable l name => .ident l name
  | .cell base position => .index line base position

/-- Extends a target by indexes. -/
def indexChain : Nat → Nat → Target → Reader Target
  | 0, _, _ => spent
  | n + 1, line, target => do
    if ← accept .leftBracket then
      let position ← expression n
      let _ ← expect .rightBracket
      indexChain n line (.cell (targetExpr line target) position)
    else return target

/-- What follows a target at the start of a statement: a declaration, an assignment or a call. Behind
an index only an assignment can follow. -/
def afterTarget (n : Nat) (name : Token) (target : Target) : Reader Stmt := do
  if let .cell _ _ := target then
    unless ← check .assign do reject .expectedAssign
  if ← accept .colon then
    let type ← typeExpr n
    let _ ← expect .assign
    return .declare name.line name.lexeme type (← expression n)
  if ← accept .assign then
    return .assign ⟨name.line, target, ← expression n⟩
  if ← check .leftParen then
    return .expr name.line (.call name.line name.lexeme (← arguments n))
  reject .expectedAfterName

/-- A statement without a block. -/
def simple (n : Nat) : Reader Stmt := do
  match (← peek).kind with
  | .returnWord =>
    let word ← advance
    return .return word.line (← expression n)
  | .breakWord =>
    return .break (← advance).line
  | .continueWord =>
    return .continue (← advance).line
  | _ =>
    let name ← expect .identifier
    let target ← indexChain n name.line (.variable name.line name.lexeme)
    afterTarget n name target

/-! ## Statements -/

/-- A condition in parentheses. -/
def condition (n : Nat) : Reader Expr := do
  let _ ← expect .leftParen
  let e ← expression n
  let _ ← expect .rightParen
  return e

/-- A parameter. -/
def param (n : Nat) : Reader Param := do
  let name ← expect .identifier
  let _ ← expect .colon
  let type ← typeExpr n
  let default? ← if ← accept .assign then some <$> expression n else pure none
  return ⟨name.line, name.lexeme, type, default?⟩

/-- One or more parameters with commas between them. -/
def params : Nat → Reader (List Param)
  | 0 => spent
  | n + 1 => do
    let first ← param n
    if ← accept .comma then
      return first :: (← params n)
    return [first]

/-- A channel on which the program is the server. Its arguments are primaries. -/
def serverChannel (n : Nat) : Reader ServerChannel := do
  let word ← expect .serverChannel
  let name ← expect .identifier
  let _ ← expect .leftBrace
  let handler ← expect .identifier
  let _ ← expect .comma
  let description ← primary n
  let _ ← expect .comma
  let host ← primary n
  let _ ← expect .comma
  let port ← primary n
  let _ ← expect .rightBrace
  return ⟨word.line, name.lexeme, handler.lexeme, description, host, port⟩

/-- A channel on which the program is the client. Its arguments are primaries. -/
def clientChannel (n : Nat) : Reader ClientChannel := do
  let word ← expect .clientChannel
  let name ← expect .identifier
  let _ ← expect .leftBrace
  let host ← primary n
  let _ ← expect .comma
  let port ← primary n
  let _ ← expect .rightBrace
  return ⟨word.line, name.lexeme, host, port⟩

/-- The update of a loop, which must be an assignment. The complaint names the line where the update
starts and the region of the token behind it. -/
def update (n : Nat) : Reader Assignment := do
  let start ← peek
  match ← simple n with
  | .assign a => return a
  | _ => throw (.grammar ⟨.updateNotAssignment, start.line, (← peek).span⟩)

mutual

/-- Statements up to a closing brace or the end. -/
def statements : Nat → Reader (List Stmt)
  | 0 => spent
  | n + 1 => do
    let next ← peek
    if next.kind = .rightBrace ∨ next.kind = .eof then return []
    let first ← statement n
    return first :: (← statements n)

/-- A statement. -/
def statement : Nat → Reader Stmt
  | 0 => spent
  | n + 1 => do
    match (← peek).kind with
    | .func =>
      let word ← advance
      let name ← expect .identifier
      let _ ← expect .leftParen
      let ps ← if ← check .rightParen then pure [] else params n
      let _ ← expect .rightParen
      let _ ← expect .arrow
      let returns ← typeExpr n
      return .function ⟨word.line, name.lexeme, ps, returns, ← block n⟩
    | .ifBranch =>
      let word ← advance
      let c ← condition n
      let yes ← block n
      if ← accept .elseBranch then
        return .branch word.line c yes (some (← block n))
      return .branch word.line c yes none
    | .whileLoop =>
      let word ← advance
      let c ← condition n
      return .while word.line c (← block n)
    | .forLoop =>
      let word ← advance
      let _ ← expect .leftParen
      let init ← simple n
      let _ ← expect .semicolon
      let c ← expression n
      let _ ← expect .semicolon
      let step ← update n
      let _ ← expect .rightParen
      return .for word.line init c step (← block n)
    | .seq =>
      let _ ← advance
      return .seq (← block n)
    | .par =>
      let _ ← advance
      return .par (← block n)
    | .serverChannel => return .server (← serverChannel n)
    | .clientChannel => return .client (← clientChannel n)
    | .leftBrace => return .block (← block n)
    | _ => simple n

/-- Statements in braces. -/
def block : Nat → Reader (Block Stmt)
  | 0 => spent
  | n + 1 => do
    let opening ← expect .leftBrace
    let body ← statements n
    let _ ← expect .rightBrace
    return ⟨opening.line, body⟩

end

/-- A whole program. -/
def program (n : Nat) : Reader Program := do
  let body ← statements n
  let _ ← expect .eof
  return ⟨body⟩

end Reader

/-- Steps that suffice for `count` tokens: between two tokens taken, no chain of calls is longer. -/
def stepBudget (count : Nat) : Nat :=
  16 * (count + 2)

/-- The program that a list of results stands for. -/
def parseResults (results : List (Except LexError Token)) : Except ParseError Program :=
  match TokenStream.ofResults results with
  | .error e => .error (.lexical e)
  | .ok s => (Reader.program (stepBudget results.length) s).map Prod.fst

/-- The program that a source text stands for. -/
def parse (source : String) : Except ParseError Program :=
  parseResults (scan source)

end ParLang
