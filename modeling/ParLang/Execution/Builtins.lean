import ParLang.Execution.Arrays
import ParLang.Number.Reading
import ParLang.Number.Whole

/-!
# Calls of built-in functions

What each built-in function does with its arguments, once they are evaluated.
-/

namespace ParLang

namespace Exec

/-- Fails because a built-in function got a wrong number of arguments. -/
def wrongCount {α : Type} (callee : Builtin) (expected : ArgumentCount) (args : List Value)
    (line : Nat) : Exec α :=
  mismatch line (.builtinCount callee expected args.length)

/-- The text that an argument is. -/
def textArgument (callee : Builtin) (line : Nat) : Value → Exec String
  | .text s => pure s
  | v => mismatch line (.builtinText callee v.kind)

/-- The number that an argument is. -/
def numberArgument (callee : Builtin) (line : Nat) : Value → Exec Float
  | .number x => pure x
  | v => mismatch line (.builtinNumber callee v.kind)

/-- Prints values on one line, with a blank between two. -/
def printValues (depth line : Nat) (args : List Value) : Exec Value := do
  if args.isEmpty then wrongCount .print .atLeastOne args line
  let texts ← renderEach (renderValue depth) args
  let reply ← perform (.emit (String.intercalate " " texts))
  orFail line .writeOutput reply
  return .void

/-- The truth value that a value stands for. -/
def truthOf (depth line : Nat) (v : Value) : Exec Value := do
  match v with
  | .bool b => return .bool b
  | .number x => return .bool (x != 0)
  | .text s =>
    if s = "true" then return .bool true
    else if s = "false" then return .bool false
    else mismatch line (.noTruth s)
  | _ => mismatch line (.noTruth (← renderValue depth v))

/-- The number of characters of a text or of cells of an array. -/
def lengthOf (line : Nat) : Value → Exec Value
  | .text s => pure (.number (Float.ofNat s.length))
  | .array h => do
    return .number (Float.ofNat (← inspect (.length h)))
  | v => mismatch line (.noLength v.kind)

/-- The pieces of a text cut at the matches of a pattern, as an array. -/
def splitText (line : Nat) (text pattern : String) : Exec Value := do
  match ← perform (.search pattern text) with
  | some cuts => allocate ((splitAt text.toList cuts).map fun piece => .text (String.ofList piece))
  | none => fail line (.invalidPattern pattern)

/-- Sends a line on a connection and waits for a line in return. The message and the end of its line go
out one after the other, and what another unit sends may come between. -/
def exchange (line : Nat) (channel : String) (connection : ConnectionId) (message : String) :
    Exec Value := do
  let sent ← perform (.send connection message)
  orFail line (.send channel) sent
  let ended ← perform (.send connection "\n")
  orFail line (.send channel) ended
  let reply ← perform (.receive connection)
  return .text (← orFail line (.send channel) reply)

/-- Sends a line on a channel and waits for a line in return. -/
def sendLine (line : Nat) (channel message : String) : Exec Value := do
  let m ← machine
  match m.channels.find? channel with
  | none => fail line (.undefinedChannel channel)
  | some connection => exchange line channel connection message

/-- Closes a channel if it is open. -/
def closeChannel (channel : String) : Exec Value := do
  let m ← machine
  match m.channels.find? channel with
  | none => return .void
  | some connection =>
    update fun m => { m with channels := m.channels.erase channel }
    perform (.shutdown connection)
    return .void

/-- Calls a built-in function, which looks at arrays up to a depth. -/
def callBuiltin (depth : Nat) (callee : Builtin) (args : List Value) (line : Nat) : Exec Value :=
  match callee, args with
  | .print, _ => printValues depth line args
  | .input, [] => do
    let reply ← perform .readLine
    return .text (← orFail line .readInput reply)
  | .sleep, [v] => do
    let x ← numberArgument callee line v
    perform (.sleep (Number.milliseconds x))
    return .void
  | .split, [t, p] => do
    let text ← textArgument callee line t
    let pattern ← textArgument callee line p
    splitText line text pattern
  | .isNum, [v] => do
    let text ← textArgument callee line v
    return .bool (Number.readNumber? text).isSome
  | .isAlpha, [v] => do
    let text ← textArgument callee line v
    return .bool (text.toList.all Text.isLetter)
  | .toNumber, [v] => do
    let text ← textArgument callee line v
    match Number.readNumber? text with
    | some x => return .number x
    | none => fail line (.invalidNumber text)
  | .toString, [v] => return .text (← renderValue depth v)
  | .toBool, [v] => truthOf depth line v
  | .len, [v] => lengthOf line v
  | .send, [c, m] => do
    let channel ← textArgument callee line c
    let message ← textArgument callee line m
    sendLine line channel message
  | .close, [c] => do
    let channel ← textArgument callee line c
    closeChannel channel
  | .input, _ => wrongCount callee (.exactly 0) args line
  | .split, _ | .send, _ => wrongCount callee (.exactly 2) args line
  | _, _ => wrongCount callee (.exactly 1) args line

end Exec

end ParLang
