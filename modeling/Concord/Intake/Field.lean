import Concord.Value.Key

/-!
# Fields of records

Records arrive as mappings whose fields have a short and a long name.  A field
that does not hold what it should is reported with its place and the kind of
fault; a record reports all such fields together.
-/

namespace Concord

/-- What is wrong with the value of a field. -/
inductive FieldFault
  | notText
  | brokenText
  | notTruth
  | unreadableTruth
  | notInteger
  | unreadableInteger
  | oversizedInteger
  | fractionalInteger
  | notFinite
  | notMapping
  | notListed
  | unwritable
  deriving DecidableEq

/-- The code under which a fault is reported. -/
def FieldFault.code : FieldFault -> String
  | .notText => "string_type"
  | .brokenText => "string_unicode"
  | .notTruth => "bool_type"
  | .unreadableTruth => "bool_parsing"
  | .notInteger => "int_type"
  | .unreadableInteger => "int_parsing"
  | .oversizedInteger => "int_parsing_size"
  | .fractionalInteger => "int_from_float"
  | .notFinite => "finite_number"
  | .notMapping => "dict_type"
  | .notListed => "enum"
  | .unwritable => "value_error"

/-- One step on the way to a fault. -/
inductive FieldStep
  | name (text : String)
  | number (index : Int)
  deriving DecidableEq

/-- A fault and where it is. -/
structure FieldFailure where
  /-- The way from the record to the fault. -/
  place : List FieldStep
  /-- What is wrong there. -/
  fault : FieldFault
  deriving DecidableEq

/-- A value that was read, or every failure met on the way. -/
abbrev Checked (α : Type) := Except (List FieldFailure) α

namespace Checked

/-- Read two things and keep the failures of both. -/
def both {α β : Type} : Checked α -> Checked β -> Checked (α × β)
  | .ok first, .ok second => .ok (first, second)
  | .ok _, .error failures => .error failures
  | .error failures, .ok _ => .error failures
  | .error failures, .error more => .error (failures ++ more)

/-- The failures of a reading. -/
def failures {α : Type} : Checked α -> List FieldFailure
  | .ok _ => []
  | .error failures => failures

end Checked

/-- The value of a field and the name it came under; the short name counts before the long one. -/
def field? (entries : List (Value × Value)) (short long : String) : Option (String × Value) :=
  match Value.find? entries (.text short) with
  | some value => some (short, value)
  | none => (Value.find? entries (.text long)).map fun value => (long, value)

/-- Read a field, or take a default if it is missing. -/
def readField {α : Type} (entries : List (Value × Value)) (short long : String) (default : α)
    (read : Value -> Except FieldFault α) : Checked α :=
  match field? entries short long with
  | none => .ok default
  | some (name, value) =>
      match read value with
      | .ok result => .ok result
      | .error fault => .error [⟨[.name name], fault⟩]

/-- What a value says when it is taken as a text. -/
inductive Spelling
  | notText
  | broken
  | text (content : String)
  deriving DecidableEq

/-- A value taken as a text: bytes are decoded, and a tag counts as its letter. -/
def Value.spelling : Value -> Spelling
  | .text content => .text content
  | .tag kind => .text kind.letter
  | .bytes encoded =>
      match String.fromUTF8? ⟨encoded.toArray⟩ with
      | some content => .text content
      | none => .broken
  | _ => .notText

/-- A text, also as bytes. -/
def readText (value : Value) : Except FieldFault String :=
  match value.spelling with
  | .text content => .ok content
  | .broken => .error .brokenText
  | .notText => .error .notText

/-- A text or nothing. -/
def readText? (value : Value) : Except FieldFault (Option String) :=
  match value with
  | .null => .ok none
  | value => (readText value).map some

end Concord
