import Concord.Lexeme
import Concord.Number.Binary64.Basic

/-!
# Untyped values

Bundles and arguments arrive as values of any shape.  Mappings keep the order
of their entries and may have keys other than text.
-/

namespace Concord

/-- Data that has not been checked yet, or has been checked before. -/
inductive Value
  | null
  | truth (value : Bool)
  | integer (value : Int)
  | float (value : Binary64)
  | decimal (value : ExtendedDecimal)
  | text (value : String)
  | bytes (value : List UInt8)
  | list (items : List Value)
  | tuple (items : List Value)
  | map (entries : List (Value × Value))
  | tag (kind : TermKind)
  | term (value : Term)
  | lexeme (value : Lexeme)
  | foreign

namespace Value

/-- The text of a value that counts as one; a tag counts as its letter. -/
def text? : Value -> Option String
  | .text value => some value
  | .tag kind => some kind.letter
  | _ => none

/-- The exact size of a number; a truth value counts as one or zero. -/
def number? : Value -> Option ExtendedDecimal
  | .truth value => some (.finite (.ofNat value.toNat))
  | .integer value => some (.finite (.ofInt value))
  | .float value => some value.toDecimal
  | .decimal value => some value
  | _ => none

/-- Whether a value is absent, zero or empty. -/
def isBlank : Value -> Bool
  | .null => true
  | .truth value => !value
  | .integer value => value = 0
  | .float (.finite _ significand _) => significand = 0
  | .decimal (.finite value) => value.coefficient = 0
  | .text value => value = ""
  | .bytes value => value.isEmpty
  | .list items => items.isEmpty
  | .tuple items => items.isEmpty
  | .map entries => entries.isEmpty
  | _ => false

/-- The name of a value's type. -/
def typeName : Value -> String
  | .null => "NoneType"
  | .truth _ => "bool"
  | .integer _ => "int"
  | .float _ => "float"
  | .decimal _ => "Decimal"
  | .text _ => "str"
  | .bytes _ => "bytes"
  | .list _ => "list"
  | .tuple _ => "tuple"
  | .map _ => "dict"
  | .tag _ => "TermType"
  | .term value => value.className
  | .lexeme value => value.className
  | .foreign => "Opaque"

/-- The name of a value's type as it stands in a complaint about what the type lacks. -/
def fullTypeName : Value -> String
  | .decimal _ => "decimal.Decimal"
  | value => value.typeName

end Value
end Concord
