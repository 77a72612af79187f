import ParLang.Builtin
import ParLang.Token.Lexer
import ParLang.Typing.Basic

/-!
# Complaints about a program

Why checking rejects a program. Each cause has one wording.
-/

namespace ParLang

/-- A kind of name that is declared once in its scope. -/
inductive Declared where
  | variable | function | channel
deriving DecidableEq, Inhabited

/-- The kind of name in words. -/
def Declared.text : Declared → String
  | .variable => "variable"
  | .function => "function"
  | .channel => "channel"

/-- A statement that leaves the code around it. -/
inductive Jump where
  | break | continue | return
deriving DecidableEq, Inhabited

/-- The word of the statement. -/
def Jump.text : Jump → String
  | .break => "break"
  | .continue => "continue"
  | .return => "return"

/-- A place that asks for one type. -/
inductive Role where
  | serverDescription | channelHost | channelPort | condition | index
  | argument (callee : Builtin)
deriving DecidableEq, Inhabited

/-- The place in words. -/
def Role.text : Role → String
  | .serverDescription => "server description"
  | .channelHost => "channel host"
  | .channelPort => "channel port"
  | .condition => "condition"
  | .index => "index"
  | .argument callee => "argument of '" ++ callee.name ++ "'"

/-- Why a program is rejected. -/
inductive SemanticError.Cause where
  | declaredTwice (what : Declared) (name : String)
  | undeclaredVariable (name : String)
  | undeclaredFunction (name : String)
  | undeclaredHandler (name : String)
  | unknownType (type : TypeExpr)
  | notAssignable (expected found : StaticType)
  | notAssignableThrough (base : StaticType)
  | missingDefault (param : String)
  | returnOutside
  | wrongReturn (function : String) (expected found : StaticType)
  | outsideLoop (jump : Jump)
  | jumpFromUnit (jump : Jump)
  | wrongHandler (name : String) (found : StaticType)
  | mustBe (role : Role) (expected found : StaticType)
  | operands (op : BinaryOp) (left right : StaticType)
  | operand (op : UnaryOp) (found : StaticType)
  | notIndexable (base : StaticType)
  | mixedElements (first other : StaticType)
  | unsupportedElement (element : StaticType)
  | arity (callee : String) (least most found : Nat)
  | printsNothing
  | notPrintable (found : StaticType)
  | notConvertible (callee : Builtin) (found : StaticType)
  | noLength (found : StaticType)
deriving DecidableEq, Inhabited

/-- A complaint with the line it concerns. -/
structure SemanticError where
  cause : SemanticError.Cause
  line : Nat
deriving DecidableEq, Inhabited

/-- The wording of each cause. -/
def SemanticError.Cause.message : SemanticError.Cause → String
  | .declaredTwice what name => what.text ++ " '" ++ name ++ "' already declared"
  | .undeclaredVariable name => "variable '" ++ name ++ "' not declared"
  | .undeclaredFunction name => "function '" ++ name ++ "' not declared"
  | .undeclaredHandler name => "handler function '" ++ name ++ "' not declared"
  | .unknownType type => "unknown type '" ++ type.text ++ "'"
  | .notAssignable expected found =>
    "type mismatch: expected " ++ expected.name ++ ", found " ++ found.name
  | .notAssignableThrough base => "cannot assign through an index of " ++ base.name
  | .missingDefault param =>
    "parameter '" ++ param ++ "' without a default follows a defaulted parameter"
  | .returnOutside => "'return' outside of a function"
  | .wrongReturn function expected found =>
    "function '" ++ function ++ "' returns " ++ expected.name ++ ", found " ++ found.name
  | .outsideLoop jump => "'" ++ jump.text ++ "' outside of a loop"
  | .jumpFromUnit jump => "'" ++ jump.text ++ "' is not allowed directly inside 'par'"
  | .wrongHandler name found =>
    "handler function '" ++ name ++ "' must return STRING, found " ++ found.name
  | .mustBe role expected found =>
    role.text ++ " must be " ++ expected.name ++ ", found " ++ found.name
  | .operands op left right =>
    "operator '" ++ op.symbol ++ "' cannot be applied to " ++ left.name ++ " and " ++ right.name
  | .operand op found => "operator '" ++ op.symbol ++ "' cannot be applied to " ++ found.name
  | .notIndexable base => "cannot index a value of type " ++ base.name
  | .mixedElements first other =>
    "array elements must share one type, found " ++ first.name ++ " and " ++ other.name
  | .unsupportedElement element => "arrays of " ++ element.name ++ " are not supported"
  | .arity callee least most found =>
    "function '" ++ callee ++ "' expects " ++
      (if least = most then toString least else toString least ++ " to " ++ toString most) ++
      " arguments, found " ++ toString found
  | .printsNothing => "function 'print' expects at least one argument"
  | .notPrintable found => "cannot print a value of type " ++ found.name
  | .notConvertible callee found =>
    "function '" ++ callee.name ++ "' cannot take a value of type " ++ found.name
  | .noLength found => "function 'len' expects STRING or an array, found " ++ found.name

/-- The complaint with its line. -/
def SemanticError.message (e : SemanticError) : String :=
  lineMessage e.line e.cause.message

end ParLang
