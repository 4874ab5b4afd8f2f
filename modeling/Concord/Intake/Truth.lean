import Concord.Intake.Field
import Concord.Number.Binary64.Nearest
import Concord.Number.Word

/-!
# Truth values from values

A truth value may be given as one or zero, or as one of a few words.  A number
of another size is unreadable as long as it fits a machine word; beyond that it
is no truth value at all.
-/

namespace Concord

/-- The words for no, whatever their letter case. -/
def falseWords : List String := ["0", "off", "f", "false", "n", "no"]

/-- The words for yes, whatever their letter case. -/
def trueWords : List String := ["1", "on", "t", "true", "y", "yes"]

/-- The truth value that a word stands for. -/
def truthWord? (word : String) : Option Bool :=
  let small := String.ofList (word.toList.map Char.toLower)
  if small ∈ falseWords then some false
  else if small ∈ trueWords then some true
  else none

/-- The truth value that a whole number stands for. -/
def truthNumber (n : Int) : Except FieldFault Bool :=
  if n = 0 then .ok false
  else if n = 1 then .ok true
  else .error .unreadableTruth

/-- The truth value that a binary number stands for. -/
def truthFloat (value : Binary64) : Except FieldFault Bool :=
  match value.word? with
  | some n => truthNumber n
  | none => .error .notTruth

/-- A truth value, also as a number or a word; a decimal counts as the nearest binary number. -/
def readTruth (value : Value) : Except FieldFault Bool :=
  match value with
  | .truth value => .ok value
  | .integer value => if fitsWord value then truthNumber value else .error .notTruth
  | .float value => truthFloat value
  | .decimal value => truthFloat (Binary64.nearest value)
  | value =>
      match value.spelling with
      | .text word =>
          match truthWord? word with
          | some result => .ok result
          | none => .error .unreadableTruth
      | .broken => .error .unreadableTruth
      | .notText => .error .notTruth

end Concord
