import ParLang.Scope.Stack
import ParLang.Typing.Error

/-!
# Types of expressions

`Expr.typeIn` finds the type of an expression from the types of the names in scope and the signatures
of the functions. It stops at the first fault, operands before their operator and from left to right.
-/

namespace ParLang

/-- What a call of a function must supply and what it gives back. -/
structure Signature where
  params : List StaticType
  required : Nat
  returns : StaticType
deriving DecidableEq, Inhabited

/-- The names that an expression may use. -/
structure Names where
  scopes : Scopes StaticType
  functions : NameMap Signature
deriving Inhabited

/-- The result of a check: what it found, or the first complaint. -/
abbrev Checked (α : Type) := Except SemanticError α

/-- Rejects with a complaint about a line. -/
def complain {α : Type} (line : Nat) (cause : SemanticError.Cause) : Checked α :=
  .error ⟨cause, line⟩

/-- The type that is written on the line. -/
def resolveType (type : TypeExpr) (line : Nat) : Checked StaticType :=
  match StaticType.ofTypeExpr? type with
  | some t => .ok t
  | none => complain line (.unknownType type)

/-- A value of type `found` may be stored where `expected` is declared. -/
def expectAssignable (expected found : StaticType) (line : Nat) : Checked Unit :=
  if expected.accepts found then .ok () else complain line (.notAssignable expected found)

/-- The place asks for the type `expected`. -/
def expectType (role : Role) (expected found : StaticType) (line : Nat) : Checked Unit :=
  if expected = found then .ok () else complain line (.mustBe role expected found)

/-- The type that an operator gives for operands of the given types, if it takes them. -/
def binaryType? (op : BinaryOp) (left right : StaticType) : Option StaticType :=
  match op with
  | .and | .or => if left = .bool ∧ right = .bool then some .bool else none
  | .eq | .notEq => if left = right then some .bool else none
  | .lt | .ltEq | .gt | .gtEq => if left = .number ∧ right = .number then some .bool else none
  | .sub | .mul | .div | .rem => if left = .number ∧ right = .number then some .number else none
  | .add =>
    if left = right ∧ (left = .number ∨ left = .string ∨ left.isArray) then some left else none

/-- The type that an operator takes and gives. -/
def unaryType : UnaryOp → StaticType
  | .neg => .number
  | .not => .bool

/-! ## Calls of built-in functions -/

/-- A built-in function takes `expected` arguments. -/
def expectArity (callee : Builtin) (expected : Nat) (args : List StaticType) (line : Nat) :
    Checked Unit :=
  if args.length = expected then .ok ()
  else complain line (.arity callee.name expected expected args.length)

/-- Every argument is a text. -/
def expectTexts (callee : Builtin) (line : Nat) : List StaticType → Checked Unit
  | [] => .ok ()
  | t :: rest => do
    expectType (.argument callee) .string t line
    expectTexts callee line rest

/-- A built-in function takes `expected` texts. -/
def textArguments (callee : Builtin) (expected : Nat) (args : List StaticType) (line : Nat) :
    Checked Unit := do
  expectArity callee expected args line
  expectTexts callee line args

/-- The argument of a built-in function that takes one. -/
def soleArgument (callee : Builtin) (args : List StaticType) (line : Nat) : Checked StaticType :=
  match args with
  | [t] => .ok t
  | _ => complain line (.arity callee.name 1 1 args.length)

/-- A built-in function takes one printable value. -/
def printableArgument (callee : Builtin) (args : List StaticType) (line : Nat) : Checked Unit := do
  let t ← soleArgument callee args line
  if t.isPrintable then .ok () else complain line (.notConvertible callee t)

/-- The type of a call of a built-in function. -/
def builtinType (callee : Builtin) (args : List StaticType) (line : Nat) : Checked StaticType :=
  match callee with
  | .print =>
    if args.isEmpty then complain line .printsNothing
    else
      match args.find? (fun t => !t.isPrintable) with
      | some t => complain line (.notPrintable t)
      | none => .ok .void
  | .input => do
    expectArity callee 0 args line
    return .string
  | .sleep => do
    let t ← soleArgument callee args line
    expectType (.argument callee) .number t line
    return .void
  | .split => do
    textArguments callee 2 args line
    return .arrayString
  | .isNum | .isAlpha => do
    textArguments callee 1 args line
    return .bool
  | .toNumber => do
    textArguments callee 1 args line
    return .number
  | .toString => do
    printableArgument callee args line
    return .string
  | .toBool => do
    printableArgument callee args line
    return .bool
  | .len => do
    let t ← soleArgument callee args line
    if t = .string ∨ t.isArray then return .number else complain line (.noLength t)
  | .send => do
    textArguments callee 2 args line
    return .string
  | .close => do
    textArguments callee 1 args line
    return .void

/-! ## Calls of the program's own functions -/

/-- Each argument may be stored in its parameter. -/
def expectArguments (line : Nat) : List StaticType → List StaticType → Checked Unit
  | param :: params, arg :: args => do
    expectAssignable param arg line
    expectArguments line params args
  | _, _ => .ok ()

/-- The type of a call with arguments of the given types. -/
def callType (names : Names) (callee : String) (args : List StaticType) (line : Nat) :
    Checked StaticType :=
  match Builtin.ofName? callee with
  | some builtin => builtinType builtin args line
  | none =>
    match names.functions.find? callee with
    | none => complain line (.undeclaredFunction callee)
    | some signature => do
      if args.length < signature.required ∨ signature.params.length < args.length then
        complain line (.arity callee signature.required signature.params.length args.length)
      expectArguments line signature.params args
      return signature.returns

/-! ## Expressions -/

/-- The type of a variable. -/
def variableType (names : Names) (line : Nat) (name : String) : Checked StaticType :=
  match names.scopes.find? name with
  | some t => .ok t
  | none => complain line (.undeclaredVariable name)

/-- The type of an element of a value of type `base`. -/
def indexType (base : StaticType) (line : Nat) : Checked StaticType :=
  if base = .string then .ok .string
  else
    match base.element? with
    | some t => .ok t
    | none => complain line (.notIndexable base)

/-- The type of an array literal whose elements have the type `element?`; an empty one counts as an
array of numbers. -/
def literalType (element? : Option StaticType) (line : Nat) : Checked StaticType :=
  let element := element?.getD .number
  match element.arrayOf? with
  | some t => .ok t
  | none => complain line (.unsupportedElement element)

mutual

/-- The type of an expression. -/
def Expr.typeIn (names : Names) : Expr → Checked StaticType
  | .number _ _ => .ok .number
  | .text _ _ => .ok .string
  | .truth _ _ => .ok .bool
  | .ident line name => variableType names line name
  | .binary line op left right => do
    let l ← left.typeIn names
    let r ← right.typeIn names
    match binaryType? op l r with
    | some t => .ok t
    | none => complain line (.operands op l r)
  | .unary line op operand => do
    let t ← operand.typeIn names
    if t = unaryType op then .ok t else complain line (.operand op t)
  | .call line callee args => do
    let ts ← typesIn names args
    callType names callee ts line
  | .index line base position => do
    let b ← base.typeIn names
    let p ← position.typeIn names
    expectType .index .number p position.line
    indexType b line
  | .array line items => do
    let element? ← elementIn names line none items
    literalType element? line

/-- The types of arguments. -/
def typesIn (names : Names) : List Expr → Checked (List StaticType)
  | [] => .ok []
  | e :: rest => do
    let t ← e.typeIn names
    let ts ← typesIn names rest
    return t :: ts

/-- The one type of the elements of an array literal, of which those before had the type `found?`. -/
def elementIn (names : Names) (line : Nat) (found? : Option StaticType) :
    List Expr → Checked (Option StaticType)
  | [] => .ok found?
  | e :: rest => do
    let t ← e.typeIn names
    match found? with
    | none => elementIn names line (some t) rest
    | some first =>
      if first = t then elementIn names line (some first) rest
      else complain line (.mixedElements first t)

end

/-- The expression has the type that the place asks for. -/
def expectExpr (names : Names) (role : Role) (expected : StaticType) (e : Expr) (line : Nat) :
    Checked Unit := do
  let t ← e.typeIn names
  expectType role expected t line

end ParLang
