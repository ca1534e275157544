/-
FrontEnd/Typing/Symbol.lean

The types of values: the built-in ones, arrays of them, and either with the
qualifier that forbids a second assignment.
-/
import FrontEnd.Token.Kind

namespace FrontEnd

/-- A built-in type. -/
inductive Primitive
  | integer
  | double
  | boolean
  | character
  | string
  | void
  /-- The type of the literal `null`. -/
  | null
deriving DecidableEq, Repr

namespace Primitive

/-- Every built-in type. -/
def all : List Primitive := [.integer, .double, .boolean, .character, .string, .void, .null]

/-- The type as it is written in a source text. -/
def name : Primitive → String
  | .integer => "integer"
  | .double => "double"
  | .boolean => "boolean"
  | .character => "character"
  | .string => "String"
  | .void => "void"
  | .null => "null"

/-- The type that a keyword stands for.  The keyword `null` has a type although it names none. -/
def ofKeyword? : Keyword → Option Primitive
  | .integerKw => some .integer
  | .doubleKw => some .double
  | .booleanKw => some .boolean
  | .characterKw => some .character
  | .stringKw => some .string
  | .voidKw => some .void
  | .nullKw => some .null
  | _ => none

/-- The type that tokens of a kind stand for. -/
def ofKind? : Kind → Option Primitive
  | .keyword word => ofKeyword? word
  | _ => none

end Primitive

/-- The declared type of a name. -/
inductive Symbol
  | primitive (type : Primitive)
  /-- An array of one dimension. -/
  | array (element : Primitive)
  /-- A name that keeps its first value. -/
  | constant (inner : Symbol)
deriving DecidableEq, Repr

namespace Symbol

/-- The symbol as messages show it. -/
def label : Symbol → String
  | .primitive type => type.name
  | .array element => element.name ++ "[]"
  | .constant inner => "constant " ++ inner.label

/-- The symbol without qualifiers. -/
def unqualified : Symbol → Symbol
  | .constant inner => inner.unqualified
  | symbol => symbol

/-- Whether the symbol is qualified. -/
def isConstant : Symbol → Bool
  | .constant _ => true
  | _ => false

/-- Whether a value of type `value` can be stored where `target` is declared.  Qualifiers on
either side do not count; `null` fits a string. -/
def accepts (target value : Symbol) : Bool :=
  match target.unqualified, value.unqualified with
  | .primitive t, .primitive v => t == v || (t == .string && v == .null)
  | .array t, .array v => t == v
  | _, _ => false

/-- Whether values of the type are strings. -/
def isString (symbol : Symbol) : Bool := symbol.unqualified == .primitive .string

/-- Whether values of the type are shared: strings and arrays are, all others are copied. -/
def isReference (symbol : Symbol) : Bool :=
  match symbol.unqualified with
  | .primitive .string | .array _ => true
  | _ => false

end Symbol

end FrontEnd
