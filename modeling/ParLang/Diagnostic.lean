import ParLang.Program.Parser
import ParLang.Typing.Checker

/-!
# Complaints about a source text

A source text is compiled by reading and checking it. A complaint about it is shown as a `Diagnostic`:
its text, one labelled region of the source, and sometimes a hint.
-/

namespace ParLang

/-- Why a source text is not accepted. -/
inductive CompileError where
  | parse (e : ParseError)
  | semantic (e : SemanticError)
deriving DecidableEq, Inhabited

/-- The complaint with its line. -/
def CompileError.message : CompileError → String
  | .parse e => e.message
  | .semantic e => e.message

/-- The program of a source text that reads and passes the check. -/
def compile (source : String) : Except CompileError Program :=
  match parse source with
  | .error e => .error (.parse e)
  | .ok p =>
    match p.check with
    | .error e => .error (.semantic e)
    | .ok () => .ok p

/-- A complaint with the region it is about. -/
structure Diagnostic where
  title : String
  span : Span
  label : String
  help? : Option String
deriving DecidableEq, Inhabited

namespace Diagnostic

/-- A complaint about characters points at them. -/
def ofLexError (e : LexError) : Diagnostic :=
  ⟨e.message, e.span, "invalid token", none⟩

/-- A complaint about tokens points at the token. -/
def ofParseError : ParseError → Diagnostic
  | .lexical e => ofLexError e
  | .grammar e => ⟨e.message, e.span, "unexpected token", none⟩

/-- `part` occurs in `cs`. -/
def occursIn (part : List Char) : List Char → Bool
  | [] => part.isEmpty
  | c :: rest => part.isPrefixOf (c :: rest) || occursIn part rest

/-- A complaint about meaning points at its whole line. One about a second declaration comes with a
hint. -/
def ofSemanticError (source : String) (e : SemanticError) : Diagnostic :=
  ⟨e.message, .ofLine source e.line, "rejected here",
    if occursIn "already declared".toList e.cause.message.toList then
      some "names may be shadowed in a nested block"
    else none⟩

/-- The complaint about a source text. -/
def ofCompileError (source : String) : CompileError → Diagnostic
  | .parse e => ofParseError e
  | .semantic e => ofSemanticError source e

end Diagnostic

end ParLang
