/-!
# Built-in functions

The functions that every program can call. A call resolves to them before it looks at the program's
own functions.
-/

namespace ParLang

/-- The built-in functions. -/
inductive Builtin where
  | print | input | sleep | split | isNum | isAlpha | toNumber | toString | toBool | len | send | close
deriving DecidableEq, Inhabited

namespace Builtin

/-- Every built-in function. -/
def all : List Builtin :=
  [.print, .input, .sleep, .split, .isNum, .isAlpha, .toNumber, .toString, .toBool, .len, .send,
   .close]

/-- The name that a call uses. -/
def name : Builtin → String
  | .print => "print"
  | .input => "input"
  | .sleep => "sleep"
  | .split => "split"
  | .isNum => "isnum"
  | .isAlpha => "isalpha"
  | .toNumber => "to_number"
  | .toString => "to_string"
  | .toBool => "to_bool"
  | .len => "len"
  | .send => "send"
  | .close => "close"

/-- The built-in function that a call of `name` resolves to. -/
def ofName? (name : String) : Option Builtin :=
  all.find? (·.name == name)

end Builtin

end ParLang
