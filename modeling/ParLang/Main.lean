import ParLang.CommandLine
import ParLang.Pattern.Engine

/-!
# The program

Reads files, standard input and the arguments, and writes what the command line says. A program runs
step by step: what it prints is written at once, a line is read when it asks for one, and a pause takes
its time. The network is down here, so nobody can be reached.
-/

namespace ParLang

open CommandLine

/-- Reads a file. -/
def readPath (path : String) : IO (Except FileFault ByteArray) := do
  try
    return .ok (← IO.FS.readBinFile path)
  catch e =>
    match e with
    | .noFileOrDirectory .. => return .error .notFound
    | .inappropriateType .. => return .error .isDirectory
    | .permissionDenied .. => return .error .denied
    | _ => return .error .notFound

/-- Writes what the program has printed since `shown` bytes. -/
def showOutput (shown : Nat) (w : World) : IO Unit := do
  let written := w.output.written
  if shown < written.size then
    let out ← IO.getStdout
    out.write (written.extract shown written.size)
    out.flush

/-- Does the part of an effect that lies outside: waits, or reads a line of input. -/
def prepare (w : World) : Option Effect → IO World
  | some (.sleep milliseconds) => do
    IO.sleep (UInt32.ofNat milliseconds)
    return w
  | some .readLine => do
    let line ← (← IO.getStdin).getLine
    return { w with input := w.input ++ line.toUTF8.toList }
  | _ => return w

/-- Runs a task to its end. -/
partial def runTask (t : Task) (w : World) : IO (Except SessionError Unit) := do
  match t with
  | .finished _ (.ok ()) _ => return .ok ()
  | .finished _ (.error e) _ => return .error (.runtime e)
  | _ =>
    match w.accept?, t.next? w with
    | some w', _ =>
      showOutput w.output.written.size w'
      runTask t w'
    | none, none => return .error .stuck
    | none, some (_, way) =>
      let w ← prepare w (t.effectAt? way)
      match t.stepAt w way with
      | none => return .error .stuck
      | some (t', w') =>
        showOutput w.output.written.size w'
        runTask t' w'

/-- Carries out a plan and gives the exit code. -/
def carryOut : Plan → IO UInt32
  | .report r => do
    (← IO.getStdout).write r.output
    IO.eprint r.errors
    return UInt32.ofNat r.code
  | .run p => do
    let network := Network.new (fun _ => false) (fun _ => true) [] 40000
    let world : World := ⟨⟨.new none, [], network, Pattern.matcher⟩, .empty⟩
    let task := Task.start 0 (Exec.runProgram Session.depthBudget p.statements) .initial
    let result ← runTask task world
    IO.eprint (runErrors result)
    return UInt32.ofNat (runCode result)

end ParLang

/-- Runs the command that the arguments ask for. -/
def main (args : List String) : IO UInt32 := do
  match ParLang.CommandLine.Request.ofArgs args with
  | .command _ path =>
    let contents ← ParLang.readPath path
    ParLang.carryOut (ParLang.CommandLine.planFor (fun _ => contents) args)
  | _ => ParLang.carryOut (ParLang.CommandLine.planFor (fun _ => .error .notFound) args)
