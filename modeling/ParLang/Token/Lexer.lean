import ParLang.Text.Blank
import ParLang.Text.Letter
import ParLang.Text.Numeral
import ParLang.Token.Basic

/-!
# Reading tokens

A `Cursor` is a place in a source text. `Cursor.next` reads the token there and gives the place behind
it; after a fault it goes on behind the characters at fault, so that reading can always continue. At
the end of the text every further call gives the same end token. A `Lexer` keeps the text beside its
cursor, so that reading can start again. `scan` is the whole run of results, faults included, and
`tokens` the list of tokens of a text without a fault.
-/

namespace ParLang

/-- Why the characters at some place are no token. -/
inductive LexError.Cause where
  | unterminatedComment
  | unterminatedString
  | unexpected (c : Char)
  /-- A fault of a token source that is no source text. -/
  | reported (text : String)
deriving DecidableEq, Inhabited

/-- A fault with the line and the region it concerns. -/
structure LexError where
  cause : LexError.Cause
  line : Nat
  span : Span
deriving DecidableEq, Inhabited

/-- The text of a complaint about a line. -/
def lineMessage (line : Nat) (text : String) : String :=
  "line " ++ toString line ++ ": " ++ text

namespace LexError

/-- The wording of each cause. -/
def Cause.message : Cause → String
  | .unterminatedComment => "Unterminated block comment"
  | .unterminatedString => "Unterminated string literal"
  | .unexpected c => "Unexpected character '" ++ String.singleton c ++ "'"
  | .reported text => text

/-- The complaint with its line. -/
def message (e : LexError) : String :=
  lineMessage e.line e.cause.message

end LexError

/-- A place in a source text: the characters to come, the byte offset and the 1-based line. -/
structure Cursor where
  rest : List Char
  offset : Nat
  line : Nat
deriving DecidableEq, Inhabited

namespace Cursor

/-- The start of a text. -/
def ofString (source : String) : Cursor :=
  ⟨source.toList, 0, 1⟩

/-- The place behind the characters `taken`, where `rest` is to come. -/
def past (c : Cursor) (taken rest : List Char) : Cursor :=
  ⟨rest, c.offset + byteLength taken, c.line + taken.count '\n'⟩

/-- Where skipping stands: between tokens, in a comment that ends with its line, or in a comment
that started at a byte offset and ends with its closing mark. -/
inductive TriviaState where
  | between
  | lineComment
  | blockComment (start : Nat)

/-- The end of skipping: a place where a token or the end of the text is, or the end of the text
inside a comment that started at `start`. -/
inductive Skipped where
  | reached (c : Cursor)
  | unclosed (start : Nat) (c : Cursor)

/-- Skips blanks and comments, character by character. A line comment ends before its `'\n'`, and a
block comment ends behind the first closing mark after its opening mark. -/
def skipTrivia : TriviaState → List Char → Nat → Nat → Skipped
  | .between, [], offset, line => .reached ⟨[], offset, line⟩
  | .between, '/' :: '*' :: rest, offset, line =>
    skipTrivia (.blockComment offset) rest (offset + 2) line
  | .between, c :: rest, offset, line =>
    if c = '#' then skipTrivia .lineComment rest (offset + 1) line
    else if Text.isBlank c then
      skipTrivia .between rest (offset + c.utf8Size) (if c = '\n' then line + 1 else line)
    else .reached ⟨c :: rest, offset, line⟩
  | .lineComment, [], offset, line => .reached ⟨[], offset, line⟩
  | .lineComment, c :: rest, offset, line =>
    if c = '\n' then skipTrivia .between rest (offset + 1) (line + 1)
    else skipTrivia .lineComment rest (offset + c.utf8Size) line
  | .blockComment start, [], offset, line => .unclosed start ⟨[], offset, line⟩
  | .blockComment _, '*' :: '/' :: rest, offset, line =>
    skipTrivia .between rest (offset + 2) line
  | .blockComment start, c :: rest, offset, line =>
    skipTrivia (.blockComment start) rest (offset + c.utf8Size)
      (if c = '\n' then line + 1 else line)

/-- A character that may continue a name. -/
def isNameChar (c : Char) : Bool :=
  Text.isLetter c || Text.isNumeral c || c == '_'

/-- The token of kind `kind` at `c` whose text is `taken`. -/
def token (c : Cursor) (kind : Token.Kind) (taken : List Char) : Token :=
  ⟨kind, String.ofList taken, c.line, ⟨c.offset, c.offset + byteLength taken⟩⟩

/-- The name or reserved word at `c`. -/
def word (c : Cursor) : Token × Cursor :=
  let taken := c.rest.takeWhile isNameChar
  let kind := (Token.Kind.keyword? (String.ofList taken)).getD .identifier
  (c.token kind taken, c.past taken (c.rest.dropWhile isNameChar))

/-- The run of decimal digits at `c`. -/
def number (c : Cursor) : Token × Cursor :=
  let taken := c.rest.takeWhile Char.isDigit
  (c.token .number taken, c.past taken (c.rest.dropWhile Char.isDigit))

/-- The string whose opening quote is at `c`, where `body` stands behind that quote. -/
def text (c : Cursor) (body : List Char) : Except LexError Token × Cursor :=
  let inner := body.takeWhile (· != '"')
  match body.dropWhile (· != '"') with
  | [] =>
    let done := c.past ('"' :: inner) []
    (.error ⟨.unterminatedString, c.line, ⟨c.offset, done.offset⟩⟩, done)
  | quote :: rest =>
    let done := c.past ('"' :: inner ++ [quote]) rest
    (.ok ⟨.string, String.ofList inner, c.line, ⟨c.offset, done.offset⟩⟩, done)

/-- The symbol that starts with the character `c` before `rest`, with what stands behind it. A symbol
of two characters wins over its first character alone. -/
def symbol? (c : Char) (rest : List Char) : Option (Token.Kind × List Char × List Char) :=
  let one (kind : Token.Kind) := some (kind, [c], rest)
  let either (second : Char) (both : Token.Kind) (alone : Option Token.Kind) :=
    match rest with
    | d :: rest' =>
      if d = second then some (both, [c, d], rest') else alone.map (·, [c], rest)
    | [] => alone.map (·, [c], rest)
  match c with
  | '(' => one .leftParen
  | ')' => one .rightParen
  | '{' => one .leftBrace
  | '}' => one .rightBrace
  | '[' => one .leftBracket
  | ']' => one .rightBracket
  | ',' => one .comma
  | ':' => one .colon
  | ';' => one .semicolon
  | '.' => one .dot
  | '+' => one .plus
  | '*' => one .star
  | '/' => one .slash
  | '%' => one .percent
  | '-' => either '>' .arrow (some .minus)
  | '=' => either '=' .equal (some .assign)
  | '!' => either '=' .notEqual (some .bang)
  | '>' => either '=' .greaterEqual (some .greater)
  | '<' => either '=' .lessEqual (some .less)
  | '&' => either '&' .conj none
  | '|' => either '|' .disj none
  | _ => none

/-- The token at `c`, where no blank and no comment is. -/
def readToken (c : Cursor) : Except LexError Token × Cursor :=
  match c.rest with
  | [] => (.ok (c.token .eof []), c)
  | ch :: rest =>
    if Text.isLetter ch then (.ok c.word.1, c.word.2)
    else if ch.isDigit then (.ok c.number.1, c.number.2)
    else if ch = '"' then c.text rest
    else
      match symbol? ch rest with
      | some (kind, taken, rest') => (.ok (c.token kind taken), c.past taken rest')
      | none =>
        let done := c.past [ch] rest
        (.error ⟨.unexpected ch, c.line, ⟨c.offset, done.offset⟩⟩, done)

/-- The next token behind `c`, or the next fault, with the place behind it. -/
def next (c : Cursor) : Except LexError Token × Cursor :=
  match skipTrivia .between c.rest c.offset c.line with
  | .unclosed start done =>
    (.error ⟨.unterminatedComment, done.line, ⟨start, done.offset⟩⟩, done)
  | .reached place => place.readToken

/-- The results of up to `n` calls of `next` from `c`, up to the end of the text. -/
def results : Nat → Cursor → List (Except LexError Token)
  | 0, _ => []
  | n + 1, c =>
    match c.next with
    | (.ok t, done) => if t.kind = .eof then [.ok t] else .ok t :: results n done
    | (.error e, done) => .error e :: results n done

end Cursor

/-- A source text with the place in it that reading has come to. -/
structure Lexer where
  source : String
  cursor : Cursor
deriving DecidableEq, Inhabited

namespace Lexer

/-- The start of a text. -/
def new (source : String) : Lexer :=
  ⟨source, .ofString source⟩

/-- Back at the start of the text. -/
def reset (l : Lexer) : Lexer :=
  new l.source

/-- The next token or fault of the text, and the lexer behind it. -/
def next (l : Lexer) : Except LexError Token × Lexer :=
  let (result, cursor) := l.cursor.next
  (result, { l with cursor := cursor })

end Lexer

/-- Every token and every fault of a text in order, with the end token last. Each call but the last
takes at least one character, so one call more than there are characters reaches the end. -/
def scan (source : String) : List (Except LexError Token) :=
  Cursor.results (source.toList.length + 1) (.ofString source)

/-- The first fault in a run of results, and without one the tokens. -/
def firstFault : List (Except LexError Token) → Except LexError (List Token)
  | [] => .ok []
  | .error e :: _ => .error e
  | .ok t :: rest => (firstFault rest).map (t :: ·)

/-- The tokens of a text, the end token last, or its first fault. -/
def tokens (source : String) : Except LexError (List Token) :=
  firstFault (scan source)

end ParLang
