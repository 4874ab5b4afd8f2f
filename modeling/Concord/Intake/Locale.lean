import Concord.Locale
import Concord.Value.Basic

/-!
# Locale names from values

A value that is absent, zero or empty names no locale.  Any other value must be
a text.
-/

namespace Concord

/-- Why a value names no locale although it is not empty. -/
inductive LocaleFault
  | notText (typeName : String)
  | bytes
  deriving DecidableEq

/-- The wording of a fault. -/
def LocaleFault.message : LocaleFault -> String
  | .notText typeName => Text.quoted typeName ++ " object has no attribute 'strip'"
  | .bytes => "a bytes-like object is required, not 'str'"

/-- Read the name of a locale, if a value gives one. -/
def LocaleName.ofValue (value : Value) : Except LocaleFault (Option LocaleName) :=
  if value.isBlank then
    .ok none
  else
    match value with
    | .text name => .ok (some (.text name))
    | .tag kind => .ok (some (.tag kind))
    | .bytes _ => .error .bytes
    | value => .error (.notText value.fullTypeName)

end Concord
