import Concord.Number.Binary64.Printer
import Concord.Value.Basic

/-!
# Written values

A value inside a container is written as a literal: texts in quotes, tags and
terms with their class.  Shown by itself, a text is written as it is.  As an
argument of a label, an absent value is written as nothing and a whole
floating-point number without its fraction.  A value that holds a whole number
with too many digits cannot be written.
-/

namespace Concord
namespace Value

/-- Elements between parentheses; a single one is followed by a comma. -/
def parenthesized : List String -> String
  | [single] => "(" ++ single ++ ",)"
  | texts => "(" ++ commaSeparated texts ++ ")"

mutual

/-- A value inside a container. -/
def literal : Value -> String
  | .null => "None"
  | .truth value => truthLiteral value
  | .integer value => Int.repr value
  | .float value => value.text
  | .decimal value => "Decimal('" ++ value.text ++ "')"
  | .text value => Text.quoted value
  | .bytes value => Text.quotedBytes value
  | .list items => "[" ++ commaSeparated (itemLiterals items) ++ "]"
  | .tuple items => parenthesized (itemLiterals items)
  | .map entries => "\x7b" ++ commaSeparated (entryLiterals entries) ++ "\x7d"
  | .tag kind => kind.literal
  | .term value => value.literal
  | .lexeme value => value.literal
  | .foreign => "<opaque>"

/-- The elements of a container. -/
def itemLiterals : List Value -> List String
  | [] => []
  | item :: rest => item.literal :: itemLiterals rest

/-- The entries of a mapping, each with its key. -/
def entryLiterals : List (Value × Value) -> List String
  | [] => []
  | (key, value) :: rest => (key.literal ++ ": " ++ value.literal) :: entryLiterals rest

end

/-- A value shown by itself. -/
def display : Value -> String
  | .text value => value
  | .decimal value => value.text
  | .tag kind => kind.display
  | .term value => value.display
  | .lexeme value => value.display
  | value => value.literal

/-- A value as an argument of a label. -/
def shown : Value -> String
  | .null => ""
  | .truth value => if value then "true" else "false"
  | .float value =>
      match value.whole? with
      | some whole => Int.repr whole
      | none => value.text
  | value => value.display

mutual

/-- Whether all whole numbers in a value are short enough to be written. -/
def isWritable : Value -> Bool
  | .integer value => Concord.isWritable value
  | .list items => areItemsWritable items
  | .tuple items => areItemsWritable items
  | .map entries => areEntriesWritable entries
  | .term value => value.isWritable
  | _ => true

/-- Whether all whole numbers in the elements of a container are short enough to be written. -/
def areItemsWritable : List Value -> Bool
  | [] => true
  | item :: rest => item.isWritable && areItemsWritable rest

/-- Whether all whole numbers in the entries of a mapping are short enough to be written. -/
def areEntriesWritable : List (Value × Value) -> Bool
  | [] => true
  | (key, value) :: rest => key.isWritable && value.isWritable && areEntriesWritable rest

end

/-- Let a text that a value is written as pass if the value can be written. -/
def whenWritable (value : Value) (text : String) : Except NumberError String :=
  if value.isWritable then .ok text else .error .unwritable

/-- The text that a value is written as by itself. -/
def written (value : Value) : Except NumberError String :=
  value.whenWritable value.display

/-- The text that a value is written as for an argument of a label. -/
def argumentText (value : Value) : Except NumberError String :=
  value.whenWritable value.shown

@[simp] theorem written_text (text : String) : (Value.text text).written = .ok text := by
  simp [written, whenWritable, isWritable, display]

theorem argumentText_of_writable {value : Value} (writable : value.isWritable = true) :
    value.argumentText = .ok value.shown := by
  rw [argumentText, whenWritable, writable, if_pos rfl]

theorem argumentText_of_unwritable {value : Value} (unwritable : value.isWritable = false) :
    value.argumentText = .error .unwritable := by
  rw [argumentText, whenWritable, unwritable, if_neg Bool.false_ne_true]

end Value
end Concord
