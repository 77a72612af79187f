import ParLang.Program.Basic

/-!
# Static types

The types that checking gives to expressions. Arrays have one level, over numbers, texts or truth
values.
-/

namespace ParLang

/-- A static type. -/
inductive StaticType where
  | number | bool | string | void
  | arrayNumber | arrayString | arrayBool
  | func | clientChannel | serverChannel
deriving DecidableEq, Inhabited

namespace StaticType

/-- Every static type. -/
def all : List StaticType :=
  [.number, .bool, .string, .void, .arrayNumber, .arrayString, .arrayBool, .func, .clientChannel,
   .serverChannel]

/-- The name of the type in complaints. -/
def name : StaticType → String
  | .number => "NUMBER"
  | .bool => "BOOL"
  | .string => "STRING"
  | .void => "VOID"
  | .arrayNumber => "ARRAY_NUMBER"
  | .arrayString => "ARRAY_STRING"
  | .arrayBool => "ARRAY_BOOL"
  | .func => "FUNC"
  | .clientChannel => "C_CHANNEL"
  | .serverChannel => "S_CHANNEL"

/-- The type of arrays with elements of this type. -/
def arrayOf? : StaticType → Option StaticType
  | .number => some .arrayNumber
  | .string => some .arrayString
  | .bool => some .arrayBool
  | _ => none

/-- The type of the elements of an array type. -/
def element? : StaticType → Option StaticType
  | .arrayNumber => some .number
  | .arrayString => some .string
  | .arrayBool => some .bool
  | _ => none

/-- The type is an array type. -/
def isArray (t : StaticType) : Bool :=
  t.element?.isSome

/-- A value of type `value` may be stored where `t` is declared. An array type admits every array, so
that the empty array fits each of them. -/
def accepts (t value : StaticType) : Bool :=
  t == value || (t.isArray && value.isArray)

/-- A value of the type can be printed. -/
def isPrintable : StaticType → Bool
  | .number | .bool | .string | .arrayNumber | .arrayString | .arrayBool => true
  | _ => false

/-- The type that a word names. -/
def ofWord? : String → Option StaticType
  | "number" => some .number
  | "bool" => some .bool
  | "string" => some .string
  | "void" => some .void
  | "func" => some .func
  | "c_channel" => some .clientChannel
  | "s_channel" => some .serverChannel
  | _ => none

/-- The type that is written; only a word, or a word in brackets, can have one. -/
def ofTypeExpr? : TypeExpr → Option StaticType
  | .named word => ofWord? word
  | .array (.named word) => (ofWord? word).bind arrayOf?
  | .array (.array _) => none

end StaticType

end ParLang
