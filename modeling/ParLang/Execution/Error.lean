import ParLang.Builtin
import ParLang.Number.Shortest
import ParLang.Program.Basic
import ParLang.Token.Lexer
import ParLang.Value.Basic

/-!
# Failures of a running program

Why a run stops before its end. Each cause has one wording.
-/

namespace ParLang

/-- Why the world did not do what a program asked. -/
inductive IoFault where
  | sinkFull | endOfInput | invalidText
  | networkUnreachable | connectionRefused | addressInUse | addressNotAvailable
  | closedByPeer | brokenPipe
  /-- Anything else, in the words of the system. -/
  | other (text : String)
deriving DecidableEq, Inhabited

/-- The fault in words. -/
def IoFault.text : IoFault → String
  | .sinkFull => "sink full"
  | .endOfInput => "end of input"
  | .invalidText => "stream did not contain valid UTF-8"
  | .networkUnreachable => "Network is unreachable (os error 101)"
  | .connectionRefused => "Connection refused (os error 111)"
  | .addressInUse => "Address already in use (os error 98)"
  | .addressNotAvailable => "Cannot assign requested address (os error 99)"
  | .closedByPeer => "connection closed by peer"
  | .brokenPipe => "Broken pipe (os error 32)"
  | .other text => text

/-- What a program asked of the world. -/
inductive IoAction where
  | writeOutput
  | readInput
  | connect (host : String) (port : Nat)
  | listen (host : String) (port : Nat)
  | send (channel : String)
  /-- To give a unit of a parallel block a copy of the channel. -/
  | share (channel : String)
deriving DecidableEq, Inhabited

/-- The failure of the action in words. -/
def IoAction.text : IoAction → String
  | .writeOutput => "cannot write program output"
  | .readInput => "cannot read input"
  | .connect host port => "cannot connect to " ++ host ++ ":" ++ toString port
  | .listen host port => "cannot listen on " ++ host ++ ":" ++ toString port
  | .send channel => "send on channel '" ++ channel ++ "' failed"
  | .share channel => "cannot share channel '" ++ channel ++ "'"

/-- How many arguments a built-in function takes. -/
inductive ArgumentCount where
  | exactly (n : Nat)
  | atLeastOne
deriving DecidableEq, Inhabited

/-- The number of arguments in words. -/
def ArgumentCount.text : ArgumentCount → String
  | .exactly n => toString n
  | .atLeastOne => "at least 1"

/-- A value that does not fit its place. -/
inductive Mismatch where
  | notAnArray
  | condition (found : ValueKind)
  | notANumber (found : ValueKind)
  | operand (op : UnaryOp) (found : ValueKind)
  | operands (op : BinaryOp) (left right : ValueKind)
  | logical (op : BinaryOp) (found : ValueKind)
  | notIndexable (found : ValueKind)
  | argumentCount (function : String) (received : Nat)
  | missingArgument (param function : String)
  | builtinCount (callee : Builtin) (expected : ArgumentCount) (received : Nat)
  | builtinText (callee : Builtin) (found : ValueKind)
  | builtinNumber (callee : Builtin) (found : ValueKind)
  /-- A value, given by its text, that is no truth value. -/
  | noTruth (text : String)
  | noLength (found : ValueKind)
  | host (found : ValueKind)
  | port (found : ValueKind)
  | invalidPort (x : Float)
deriving Inhabited

/-- The mismatch in words. -/
def Mismatch.text : Mismatch → String
  | .notAnArray => "indexed assignment needs an array"
  | .condition found => "condition must be BOOL, found " ++ found.name
  | .notANumber found => "expected NUMBER, found " ++ found.name
  | .operand op found => "operator '" ++ op.symbol ++ "' cannot be applied to " ++ found.name
  | .operands op left right =>
    "operator '" ++ op.symbol ++ "' cannot be applied to " ++ left.name ++ " and " ++ right.name
  | .logical op found => "operator '" ++ op.symbol ++ "' expects BOOL, found " ++ found.name
  | .notIndexable found => "cannot index a value of type " ++ found.name
  | .argumentCount function received =>
    "function '" ++ function ++ "' cannot take " ++ toString received ++ " arguments"
  | .missingArgument param function => "missing argument '" ++ param ++ "' for '" ++ function ++ "'"
  | .builtinCount callee expected received =>
    "'" ++ callee.name ++ "' expects " ++ expected.text ++ " arguments, received " ++
      toString received
  | .builtinText callee found => "'" ++ callee.name ++ "' expects STRING, found " ++ found.name
  | .builtinNumber callee found => "'" ++ callee.name ++ "' expects NUMBER, found " ++ found.name
  | .noTruth text => "cannot convert '" ++ text ++ "' to BOOL"
  | .noLength found => "'len' expects STRING or an array, found " ++ found.name
  | .host found => "channel host must be STRING, found " ++ found.name
  | .port found => "channel port must be NUMBER, found " ++ found.name
  | .invalidPort x => "invalid port " ++ Number.format x

/-- Why a run stops. -/
inductive RuntimeError.Cause where
  | undeclaredVariable (name : String)
  | undefinedFunction (name : String)
  | undefinedChannel (name : String)
  | typeMismatch (mismatch : Mismatch)
  | indexOutOfBounds (index : Float) (length : Nat)
  | invalidNumber (text : String)
  | invalidPattern (pattern : String)
  | io (action : IoAction) (fault : IoFault)
  /-- A unit of a parallel block was torn down, which says nothing about a line. -/
  | panic (message : String)
deriving Inhabited

/-- A failure with the line it concerns, or `0` for a failure that concerns none. -/
structure RuntimeError where
  cause : RuntimeError.Cause
  line : Nat
deriving Inhabited

/-- The wording of each cause. -/
def RuntimeError.Cause.message : RuntimeError.Cause → String
  | .undeclaredVariable name => "variable '" ++ name ++ "' not declared"
  | .undefinedFunction name => "function '" ++ name ++ "' not declared"
  | .undefinedChannel name => "channel '" ++ name ++ "' is not open"
  | .typeMismatch mismatch => "type mismatch: " ++ mismatch.text
  | .indexOutOfBounds index length =>
    "index " ++ Number.write Number.literal index ++ " out of bounds for length " ++ toString length
  | .invalidNumber text => "cannot convert '" ++ text ++ "' to a number"
  | .invalidPattern pattern => "invalid split pattern '" ++ pattern ++ "'"
  | .io action fault => action.text ++ ": " ++ fault.text
  | .panic message => "runtime panic: " ++ message

/-- The failure with its line, if it can have one. -/
def RuntimeError.message (e : RuntimeError) : String :=
  match e.cause with
  | .panic _ => e.cause.message
  | _ => lineMessage e.line e.cause.message

end ParLang
