import ParLang.Source.Span

/-!
# Tokens

A token is a kind, the text it was read from, the line it starts on and its region. `Kind.spelling?`
is the one table of fixed spellings: keywords are recognised through it and complaints quote it.
-/

namespace ParLang

namespace Token

/-- What a token is. -/
inductive Kind where
  | identifier | number | string | typeName
  | func | whileLoop | ifBranch | forLoop | elseBranch
  | returnWord | breakWord | continueWord
  | par | seq | clientChannel | serverChannel
  | trueWord | falseWord
  | plus | minus | star | slash | percent
  | assign | equal | notEqual | greater | less | greaterEqual | lessEqual
  | conj | disj | bang
  | colon | comma | arrow | dot | semicolon
  | leftParen | rightParen | leftBrace | rightBrace | leftBracket | rightBracket
  | eof
deriving DecidableEq, Inhabited

namespace Kind

/-- Every kind, in the order of the declaration. -/
def all : List Kind :=
  [.identifier, .number, .string, .typeName,
   .func, .whileLoop, .ifBranch, .forLoop, .elseBranch,
   .returnWord, .breakWord, .continueWord,
   .par, .seq, .clientChannel, .serverChannel,
   .trueWord, .falseWord,
   .plus, .minus, .star, .slash, .percent,
   .assign, .equal, .notEqual, .greater, .less, .greaterEqual, .lessEqual,
   .conj, .disj, .bang,
   .colon, .comma, .arrow, .dot, .semicolon,
   .leftParen, .rightParen, .leftBrace, .rightBrace, .leftBracket, .rightBracket,
   .eof]

/-- The name under which a token listing shows the kind. -/
def name : Kind → String
  | .identifier => "Identifier"
  | .number => "Number"
  | .string => "String"
  | .typeName => "Type"
  | .func => "Func"
  | .whileLoop => "While"
  | .ifBranch => "If"
  | .forLoop => "For"
  | .elseBranch => "Else"
  | .returnWord => "Return"
  | .breakWord => "Break"
  | .continueWord => "Continue"
  | .par => "Par"
  | .seq => "Seq"
  | .clientChannel => "CChannel"
  | .serverChannel => "SChannel"
  | .trueWord => "True"
  | .falseWord => "False"
  | .plus => "Plus"
  | .minus => "Minus"
  | .star => "Star"
  | .slash => "Slash"
  | .percent => "Percent"
  | .assign => "Eq"
  | .equal => "EqEq"
  | .notEqual => "BangEq"
  | .greater => "Gt"
  | .less => "Lt"
  | .greaterEqual => "GtEq"
  | .lessEqual => "LtEq"
  | .conj => "AmpersandAmpersand"
  | .disj => "PipePipe"
  | .bang => "Bang"
  | .colon => "Colon"
  | .comma => "Comma"
  | .arrow => "Arrow"
  | .dot => "Dot"
  | .semicolon => "Semi"
  | .leftParen => "LParen"
  | .rightParen => "RParen"
  | .leftBrace => "LBrace"
  | .rightBrace => "RBrace"
  | .leftBracket => "LBracket"
  | .rightBracket => "RBracket"
  | .eof => "Eof"

/-- The kind that a token listing shows under the given name. -/
def ofName? (name : String) : Option Kind :=
  all.find? (·.name == name)

/-- The one text that a token of this kind can have, for the kinds that have one. -/
def spelling? : Kind → Option String
  | .identifier | .number | .string | .typeName | .eof => none
  | .func => some "func"
  | .whileLoop => some "while"
  | .ifBranch => some "if"
  | .forLoop => some "for"
  | .elseBranch => some "else"
  | .returnWord => some "return"
  | .breakWord => some "break"
  | .continueWord => some "continue"
  | .par => some "par"
  | .seq => some "seq"
  | .clientChannel => some "c_channel"
  | .serverChannel => some "s_channel"
  | .trueWord => some "true"
  | .falseWord => some "false"
  | .plus => some "+"
  | .minus => some "-"
  | .star => some "*"
  | .slash => some "/"
  | .percent => some "%"
  | .assign => some "="
  | .equal => some "=="
  | .notEqual => some "!="
  | .greater => some ">"
  | .less => some "<"
  | .greaterEqual => some ">="
  | .lessEqual => some "<="
  | .conj => some "&&"
  | .disj => some "||"
  | .bang => some "!"
  | .colon => some ":"
  | .comma => some ","
  | .arrow => some "->"
  | .dot => some "."
  | .semicolon => some ";"
  | .leftParen => some "("
  | .rightParen => some ")"
  | .leftBrace => some "\x7b"
  | .rightBrace => some "\x7d"
  | .leftBracket => some "["
  | .rightBracket => some "]"

/-- The kind as a complaint names it: a fixed spelling in quotes, otherwise the class. -/
def describe (k : Kind) : String :=
  match k.spelling? with
  | some text => "'" ++ text ++ "'"
  | none =>
    match k with
    | .identifier => "identifier"
    | .number => "number"
    | .string => "string"
    | .typeName => "type"
    | _ => "end of input"

/-- The kinds that are reserved words with a spelling of their own. -/
def reserved : List Kind :=
  [.func, .whileLoop, .ifBranch, .forLoop, .elseBranch, .returnWord, .breakWord, .continueWord,
   .par, .seq, .serverChannel, .clientChannel, .trueWord, .falseWord]

/-- The words that name a type. -/
def typeWords : List String :=
  ["number", "bool", "string", "void"]

/-- The kind of a reserved word, and `none` for a word that may be a name. -/
def keyword? (word : String) : Option Kind :=
  if typeWords.contains word then some .typeName
  else reserved.find? (·.spelling? == some word)

end Kind

end Token

/-- A token with its text, the 1-based line it starts on and its region. The text of a string token is
what stands between its quotes. -/
structure Token where
  kind : Token.Kind
  lexeme : String
  line : Nat
  span : Span
deriving DecidableEq, Inhabited

end ParLang
