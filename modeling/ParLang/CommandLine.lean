import ParLang.Program.RoundTrip
import ParLang.Session

/-!
# The command line

Four commands, each with one file: `run` checks and runs a program, `check` only checks it, `tokens`
lists its tokens and `fmt` writes it in its canonical layout. Files are read through a function, so
that what a command does is a function of its arguments and the files.
-/

namespace ParLang

namespace CommandLine

/-- What to do with a source text. -/
inductive Command where
  | run | check | tokens | fmt
deriving DecidableEq, Inhabited

/-- The command that a word names. -/
def Command.ofWord? : String → Option Command
  | "run" => some .run
  | "check" => some .check
  | "tokens" => some .tokens
  | "fmt" => some .fmt
  | _ => none

/-- What the arguments ask for. -/
inductive Request where
  | command (c : Command) (path : String)
  | help
  | misuse
deriving DecidableEq, Inhabited

/-- The argument asks for help: the long flag, or the letter in front of any others. -/
def asksHelp (arg : String) : Bool :=
  arg == "--help" || arg.startsWith "-h"

namespace Request

/-- What a command asks for when its file is `path?` so far and no flag can follow. -/
def ofPlain (c : Command) : Option String → List String → Request
  | some path, [] => .command c path
  | none, [path] => if path.isEmpty then .misuse else .command c path
  | _, _ => .misuse

/-- What a command asks for when its file is `path?` so far. The arguments are looked at one after
another, and the first that does not fit decides; behind a double dash none is a flag. -/
def ofOperands (c : Command) : Option String → List String → Request
  | path?, [] => ofPlain c path? []
  | path?, arg :: rest =>
    if arg = "--" then ofPlain c path? rest
    else if asksHelp arg then .help
    else if (arg.startsWith "-" && arg != "-") || path?.isSome || arg.isEmpty then .misuse
    else ofOperands c (some arg) rest

/-- What a request for help is about: nothing, one of the commands, or help itself. -/
def ofTopics : List String → Request
  | [] => .help
  | [topic] => if topic = "help" ∨ (Command.ofWord? topic).isSome then .help else .misuse
  | _ => .misuse

/-- What the arguments ask for. -/
def ofArgs : List String → Request
  | [] => .misuse
  | word :: rest =>
    match Command.ofWord? word with
    | some c => ofOperands c none rest
    | none =>
      if asksHelp word then .help
      else if word = "help" then ofTopics rest
      else .misuse

end Request

/-- Why a file could not be read. -/
inductive FileFault where
  | notFound | isDirectory | notDirectory | denied | invalidText
deriving DecidableEq, Inhabited

/-- The fault in words. -/
def FileFault.text : FileFault → String
  | .notFound => "No such file or directory (os error 2)"
  | .isDirectory => "Is a directory (os error 21)"
  | .notDirectory => "Not a directory (os error 20)"
  | .denied => "Permission denied (os error 13)"
  | .invalidText => "stream did not contain valid UTF-8"

/-- What a command leaves behind: an exit code and what it wrote. -/
structure Report where
  code : Nat
  output : ByteArray
  errors : String

/-- What the program is for. -/
def usage : String :=
  "Usage: parlang <run|check|tokens|fmt> <FILE>\n"

/-- A complaint about a source text, for a reader. -/
def complaint (path : String) (d : Diagnostic) : String :=
  "error: " ++ d.title ++ "\n  --> " ++ path ++ ", bytes " ++ toString d.span.start ++ " to " ++
    toString d.span.stop ++ ": " ++ d.label ++ "\n" ++
    match d.help? with
    | some help => "  help: " ++ help ++ "\n"
    | none => ""

/-- A failed command. -/
def failure (errors : String) : Report :=
  ⟨1, .empty, errors⟩

/-- A command that wrote `output`. -/
def success (output : String) : Report :=
  ⟨0, output.toUTF8, ""⟩

/-- The line of a token in a listing. -/
def tokenLine (t : Token) : String :=
  trimEnd (toString t.line ++ " " ++ t.kind.name ++ " " ++ t.lexeme) ++ "\n"

/-- What is to be done: a report, or a program to run whose failure is then reported. -/
inductive Plan where
  | report (r : Report)
  | run (p : Program)

/-- What a command does with the text of a file. -/
def plan (c : Command) (path source : String) : Plan :=
  match c with
  | .run =>
    match compile source with
    | .ok p => .run p
    | .error e => .report (failure (complaint path (.ofCompileError source e)))
  | .check =>
    match compile source with
    | .ok _ => .report (success "ok\n")
    | .error e => .report (failure (complaint path (.ofCompileError source e)))
  | .tokens =>
    match tokens source with
    | .ok ts => .report (success (String.join (ts.map tokenLine)))
    | .error e => .report (failure (complaint path (.ofLexError e)))
  | .fmt =>
    match parse source with
    | .ok p => .report (success p.print)
    | .error e => .report (failure (complaint path (.ofParseError e)))

/-- The text of a file. -/
def readText (read : String → Except FileFault ByteArray) (path : String) :
    Except FileFault String :=
  match read path with
  | .error fault => .error fault
  | .ok bytes =>
    match String.fromUTF8? bytes with
    | some text => .ok text
    | none => .error .invalidText

/-- What the arguments lead to, when files are read through `read`. -/
def planFor (read : String → Except FileFault ByteArray) (args : List String) : Plan :=
  match Request.ofArgs args with
  | .misuse => .report ⟨2, .empty, usage⟩
  | .help => .report (success usage)
  | .command c path =>
    match readText read path with
    | .ok source => plan c path source
    | .error fault => .report (failure ("Failed to access " ++ path ++ ": " ++ fault.text ++ "\n"))

/-- The failure of a run, for a reader. -/
def runErrors : Except SessionError Unit → String
  | .ok () => ""
  | .error e => "runtime error: " ++ e.message ++ "\n"

/-- The exit code of a run. -/
def runCode : Except SessionError Unit → Nat
  | .ok () => 0
  | .error _ => 1

/-- What the arguments lead to, when a program runs in the given world. -/
def execute (read : String → Except FileFault ByteArray) (world : World) (args : List String) :
    Report :=
  match planFor read args with
  | .report r => r
  | .run p =>
    let (result, s) := (Session.new world).run p
    ⟨runCode result, s.world.output.written, runErrors result⟩

end CommandLine

end ParLang
