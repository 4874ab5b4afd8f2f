import Concord.Intake.Field
import Concord.Value.Printer

/-!
# Refused terms and lexemes

A value that is no term or no lexeme is refused with the reason, the value
itself and, for a record with bad fields, every bad field.  Reading can also
meet a value that has to be written and cannot be.
-/

namespace Concord

/-- Why a value was refused. -/
inductive Refusal
  | unknownKind (raw : Value)
  | notARecord (raw : Value)
  | malformed (kind : TermKind) (failures : List FieldFailure) (raw : Value)
  | variantsNotARecord (raw : Value)
  | lexemeNotARecord (kind : TermKind) (raw : Value)
  | malformedLexeme (kind : TermKind) (failures : List FieldFailure) (raw : Value)

namespace Refusal

/-- The wording of the reason; bad fields are listed apart. -/
def message : Refusal -> String
  | .unknownKind raw => "Unknown term type tag: " ++ raw.literal
  | .notARecord raw => "Term reference must be an object, got " ++ raw.typeName
  | .malformed kind _ _ => "Malformed '" ++ kind.letter ++ "' term"
  | .variantsNotARecord _ => "Phrase variants must be an object"
  | .lexemeNotARecord kind _ => "Part in table '" ++ kind.letter ++ "' must be an object"
  | .malformedLexeme kind _ _ => "Malformed part in table '" ++ kind.letter ++ "'"

/-- The value that was refused. -/
def raw : Refusal -> Value
  | .unknownKind raw => raw
  | .notARecord raw => raw
  | .malformed _ _ raw => raw
  | .variantsNotARecord raw => raw
  | .lexemeNotARecord _ raw => raw
  | .malformedLexeme _ _ raw => raw

/-- The bad fields, where fields were read at all. -/
def failures? : Refusal -> Option (List FieldFailure)
  | .malformed _ failures _ => some failures
  | .malformedLexeme _ failures _ => some failures
  | _ => none

end Refusal

/-- Why a value could not be read. -/
inductive ReadingFault
  | refused (refusal : Refusal)
  | number (error : NumberError)

/-- What was read, or why nothing was. -/
abbrev Reading (α : Type) := Except ReadingFault α

namespace Reading

variable {α : Type}

/-- The text that a value is written as, where a text is read from any value. -/
def ofWritten (value : Value) : Reading String :=
  value.written.mapError .number

/--
What a reading gives to a field of a record: a value that cannot be written is
a bad field, and a refusal refuses the whole record.
-/
def asField (name : String) : Reading α -> Reading (Checked α)
  | .ok result => .ok (.ok result)
  | .error (.number _) => .ok (.error [⟨[.name name], .unwritable⟩])
  | .error (.refused refusal) => .error (.refused refusal)

end Reading
end Concord
