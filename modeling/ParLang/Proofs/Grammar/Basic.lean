import ParLang.Program.Parser

/-!
# The grammar

What a token list may stand for, without a word on how it is read. `Grammar.Derives ts p` says that
the tokens `ts` derive the program `p`, lines included. Expressions are given by levels: `Level k` for
the binary operators from the loosest, `k = 1`, to the tightest, `k = 6`, each left-associative, and
`Level 7` for operands with operators in front. Statements follow each other without separators.
-/

namespace ParLang

namespace Grammar

/-! ## Expressions -/

/-- The operators of each level. -/
inductive Operator : Nat → Token.Kind → BinaryOp → Prop where
  | or : Operator 1 .disj .or
  | and : Operator 2 .conj .and
  | eq : Operator 3 .equal .eq
  | notEq : Operator 3 .notEqual .notEq
  | gt : Operator 4 .greater .gt
  | lt : Operator 4 .less .lt
  | gtEq : Operator 4 .greaterEqual .gtEq
  | ltEq : Operator 4 .lessEqual .ltEq
  | add : Operator 5 .plus .add
  | sub : Operator 5 .minus .sub
  | mul : Operator 6 .star .mul
  | div : Operator 6 .slash .div
  | rem : Operator 6 .percent .rem

mutual

/-- An expression of the level, which may always be one of a tighter level. -/
inductive Level : Nat → List Token → Expr → Prop where
  | tighter {k ts e} (h : Level (k + 1) ts e) : Level k ts e
  | binary {k us vs sign op l r} (hl : Level k us l) (hop : Operator k sign.kind op)
      (hr : Level (k + 1) vs r) : Level k (us ++ sign :: vs) (.binary sign.line op l r)
  | unary {ts e} (h : Unary ts e) : Level 7 ts e

/-- A primary behind any number of operators. -/
inductive Unary : List Token → Expr → Prop where
  | primary {ts e} (h : Primary ts e) : Unary ts e
  | neg {sign ts e} (hsign : sign.kind = .minus) (h : Unary ts e) :
      Unary (sign :: ts) (.unary sign.line .neg e)
  | not {sign ts e} (hsign : sign.kind = .bang) (h : Unary ts e) :
      Unary (sign :: ts) (.unary sign.line .not e)

/-- A literal, a name with at most one call or one index, an array, or a parenthesised expression. -/
inductive Primary : List Token → Expr → Prop where
  | number {t x} (ht : t.kind = .number) (hx : Number.readDecimal? t.lexeme = some x) :
      Primary [t] (.number t.line x)
  | fraction {t dot u x} (ht : t.kind = .number) (hdot : dot.kind = .dot) (hu : u.kind = .number)
      (hx : Number.readDecimal? (t.lexeme ++ "." ++ u.lexeme) = some x) :
      Primary [t, dot, u] (.number t.line x)
  | text {t} (ht : t.kind = .string) : Primary [t] (.text t.line t.lexeme)
  | true {t} (ht : t.kind = .trueWord) : Primary [t] (.truth t.line Bool.true)
  | false {t} (ht : t.kind = .falseWord) : Primary [t] (.truth t.line Bool.false)
  | name {t} (ht : t.kind = .identifier) : Primary [t] (.ident t.line t.lexeme)
  | call {t opening ts closing args} (ht : t.kind = .identifier) (ho : opening.kind = .leftParen)
      (h : Listed ts args) (hc : closing.kind = .rightParen) :
      Primary (t :: opening :: (ts ++ [closing])) (.call t.line t.lexeme args)
  | index {t opening ts closing e} (ht : t.kind = .identifier) (ho : opening.kind = .leftBracket)
      (h : Level 1 ts e) (hc : closing.kind = .rightBracket) :
      Primary (t :: opening :: (ts ++ [closing])) (.index t.line (.ident t.line t.lexeme) e)
  | array {opening ts closing items} (ho : opening.kind = .leftBracket) (h : Listed ts items)
      (hc : closing.kind = .rightBracket) :
      Primary (opening :: (ts ++ [closing])) (.array opening.line items)
  | parens {opening ts closing e} (ho : opening.kind = .leftParen) (h : Level 1 ts e)
      (hc : closing.kind = .rightParen) : Primary (opening :: (ts ++ [closing])) e

/-- Expressions with commas between them, or none. -/
inductive Listed : List Token → List Expr → Prop where
  | none : Listed [] []
  | some {ts es} (h : Items ts es) : Listed ts es

/-- One or more expressions with commas between them. -/
inductive Items : List Token → List Expr → Prop where
  | one {ts e} (h : Level 1 ts e) : Items ts [e]
  | cons {ts comma us e es} (h : Level 1 ts e) (hcomma : comma.kind = .comma) (hrest : Items us es) :
      Items (ts ++ comma :: us) (e :: es)

end

/-- An expression. -/
abbrev Expression : List Token → Expr → Prop :=
  Level 1

/-! ## Types and simple statements -/

/-- A type: a word, or a type in brackets. -/
inductive Annotation : List Token → TypeExpr → Prop where
  | named {t} (ht : t.kind = .typeName) : Annotation [t] (.named t.lexeme)
  | array {opening ts closing type} (ho : opening.kind = .leftBracket) (h : Annotation ts type)
      (hc : closing.kind = .rightBracket) : Annotation (opening :: (ts ++ [closing])) (.array type)

/-- Any number of indexes, which lead from one target to another; `line` is that of the name. -/
inductive Indexes (line : Nat) : Target → List Token → Target → Prop where
  | none {target} : Indexes line target [] target
  | cons {target opening ts e closing us target'} (ho : opening.kind = .leftBracket)
      (h : Expression ts e) (hc : closing.kind = .rightBracket)
      (hrest : Indexes line (.cell (Reader.targetExpr line target) e) us target') :
      Indexes line target (opening :: (ts ++ closing :: us)) target'

/-- An assignment. -/
inductive Assign : List Token → Assignment → Prop where
  | intro {t us target sign ts e} (ht : t.kind = .identifier)
      (htarget : Indexes t.line (.variable t.line t.lexeme) us target) (hsign : sign.kind = .assign)
      (h : Expression ts e) : Assign (t :: (us ++ sign :: ts)) ⟨t.line, target, e⟩

/-- A statement without a block. -/
inductive Simple : List Token → Stmt → Prop where
  | return {word ts e} (hword : word.kind = .returnWord) (h : Expression ts e) :
      Simple (word :: ts) (.return word.line e)
  | break {word} (hword : word.kind = .breakWord) : Simple [word] (.break word.line)
  | continue {word} (hword : word.kind = .continueWord) : Simple [word] (.continue word.line)
  | declare {t colon us type sign ts e} (ht : t.kind = .identifier) (hcolon : colon.kind = .colon)
      (htype : Annotation us type) (hsign : sign.kind = .assign) (h : Expression ts e) :
      Simple (t :: colon :: (us ++ sign :: ts)) (.declare t.line t.lexeme type e)
  | assign {ts a} (h : Assign ts a) : Simple ts (.assign a)
  | call {t opening ts closing args} (ht : t.kind = .identifier) (ho : opening.kind = .leftParen)
      (h : Listed ts args) (hc : closing.kind = .rightParen) :
      Simple (t :: opening :: (ts ++ [closing])) (.expr t.line (.call t.line t.lexeme args))

/-! ## Statements -/

/-- A parameter, with or without a default. -/
inductive Parameter : List Token → Param → Prop where
  | plain {t colon us type} (ht : t.kind = .identifier) (hcolon : colon.kind = .colon)
      (htype : Annotation us type) : Parameter (t :: colon :: us) ⟨t.line, t.lexeme, type, none⟩
  | default {t colon us type sign ts e} (ht : t.kind = .identifier) (hcolon : colon.kind = .colon)
      (htype : Annotation us type) (hsign : sign.kind = .assign) (h : Expression ts e) :
      Parameter (t :: colon :: (us ++ sign :: ts)) ⟨t.line, t.lexeme, type, some e⟩

/-- One or more parameters with commas between them. -/
inductive Parameters : List Token → List Param → Prop where
  | one {ts p} (h : Parameter ts p) : Parameters ts [p]
  | cons {ts comma us p ps} (h : Parameter ts p) (hcomma : comma.kind = .comma)
      (hrest : Parameters us ps) : Parameters (ts ++ comma :: us) (p :: ps)

/-- Parameters with commas between them, or none. -/
inductive ParameterList : List Token → List Param → Prop where
  | none : ParameterList [] []
  | some {ts ps} (h : Parameters ts ps) : ParameterList ts ps

/-- A server channel. Its arguments are primaries. -/
inductive Server : List Token → ServerChannel → Prop where
  | intro {word name opening handler comma₁ us description comma₂ vs host comma₃ ws port closing}
      (hword : word.kind = .serverChannel) (hname : name.kind = .identifier)
      (ho : opening.kind = .leftBrace) (hhandler : handler.kind = .identifier)
      (h₁ : comma₁.kind = .comma) (hdescription : Primary us description)
      (h₂ : comma₂.kind = .comma) (hhost : Primary vs host) (h₃ : comma₃.kind = .comma)
      (hport : Primary ws port) (hc : closing.kind = .rightBrace) :
      Server (word :: name :: opening :: handler :: comma₁ ::
          (us ++ comma₂ :: (vs ++ comma₃ :: (ws ++ [closing]))))
        ⟨word.line, name.lexeme, handler.lexeme, description, host, port⟩

/-- A client channel. Its arguments are primaries. -/
inductive Client : List Token → ClientChannel → Prop where
  | intro {word name opening us host comma vs port closing} (hword : word.kind = .clientChannel)
      (hname : name.kind = .identifier) (ho : opening.kind = .leftBrace) (hhost : Primary us host)
      (hcomma : comma.kind = .comma) (hport : Primary vs port) (hc : closing.kind = .rightBrace) :
      Client (word :: name :: opening :: (us ++ comma :: (vs ++ [closing])))
        ⟨word.line, name.lexeme, host, port⟩

mutual

/-- A statement. -/
inductive Statement : List Token → Stmt → Prop where
  | simple {ts s} (h : Simple ts s) : Statement ts s
  | function {word name opening us closing arrow vs ws ps type body} (hword : word.kind = .func)
      (hname : name.kind = .identifier) (ho : opening.kind = .leftParen) (hps : ParameterList us ps)
      (hc : closing.kind = .rightParen) (harrow : arrow.kind = .arrow) (htype : Annotation vs type)
      (hbody : Braces ws body) :
      Statement (word :: name :: opening :: (us ++ closing :: arrow :: (vs ++ ws)))
        (.function ⟨word.line, name.lexeme, ps, type, body⟩)
  | branch {word opening ts closing us e yes} (hword : word.kind = .ifBranch)
      (ho : opening.kind = .leftParen) (h : Expression ts e) (hc : closing.kind = .rightParen)
      (hyes : Braces us yes) :
      Statement (word :: opening :: (ts ++ closing :: us)) (.branch word.line e yes none)
  | branchElse {word opening ts closing us other vs e yes no} (hword : word.kind = .ifBranch)
      (ho : opening.kind = .leftParen) (h : Expression ts e) (hc : closing.kind = .rightParen)
      (hyes : Braces us yes) (hother : other.kind = .elseBranch) (hno : Braces vs no) :
      Statement (word :: opening :: (ts ++ closing :: (us ++ other :: vs)))
        (.branch word.line e yes (some no))
  | while {word opening ts closing us e body} (hword : word.kind = .whileLoop)
      (ho : opening.kind = .leftParen) (h : Expression ts e) (hc : closing.kind = .rightParen)
      (hbody : Braces us body) :
      Statement (word :: opening :: (ts ++ closing :: us)) (.while word.line e body)
  | for {word opening us semi₁ ts semi₂ vs closing ws init e a body} (hword : word.kind = .forLoop)
      (ho : opening.kind = .leftParen) (hinit : Simple us init) (h₁ : semi₁.kind = .semicolon)
      (h : Expression ts e) (h₂ : semi₂.kind = .semicolon) (hupdate : Assign vs a)
      (hc : closing.kind = .rightParen) (hbody : Braces ws body) :
      Statement (word :: opening :: (us ++ semi₁ :: (ts ++ semi₂ :: (vs ++ closing :: ws))))
        (.for word.line init e a body)
  | seq {word ts body} (hword : word.kind = .seq) (hbody : Braces ts body) :
      Statement (word :: ts) (.seq body)
  | par {word ts body} (hword : word.kind = .par) (hbody : Braces ts body) :
      Statement (word :: ts) (.par body)
  | block {ts body} (hbody : Braces ts body) : Statement ts (.block body)
  | server {ts c} (h : Server ts c) : Statement ts (.server c)
  | client {ts c} (h : Client ts c) : Statement ts (.client c)

/-- Statements one behind the other, without separators. -/
inductive Statements : List Token → List Stmt → Prop where
  | none : Statements [] []
  | cons {ts us s ss} (h : Statement ts s) (hrest : Statements us ss) :
      Statements (ts ++ us) (s :: ss)

/-- Statements in braces. -/
inductive Braces : List Token → Block Stmt → Prop where
  | intro {opening ts closing ss} (ho : opening.kind = .leftBrace) (h : Statements ts ss)
      (hc : closing.kind = .rightBrace) : Braces (opening :: (ts ++ [closing])) ⟨opening.line, ss⟩

end

/-- The tokens derive the program. -/
def Derives (ts : List Token) (p : Program) : Prop :=
  Statements ts p.statements

end Grammar

end ParLang
