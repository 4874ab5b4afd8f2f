import Concord.Number.Decimal.Reader
import Concord.Number.Decimal.Rounding
import Concord.Value.Printer

/-!
# Plural operands

Plural rules look at a number through its size, its whole part and its visible
fraction digits, `1` and `1.0` being different.  The digits are those of the
number written without an exponent.
-/

namespace Concord

/-- What plural rules see of a number. -/
structure Operands where
  /-- The number with its sign. -/
  value : Decimal
  /-- The number without its sign, rounded to the working precision. -/
  magnitude : Decimal
  /-- The whole part. -/
  whole : Nat
  /-- How many fraction digits are visible. -/
  places : Nat
  /-- The visible fraction digits as a number. -/
  fraction : Nat
  /-- The visible fraction digits without zeros at the end. -/
  significant : Nat
  deriving DecidableEq

namespace Operands

/-- Whether the fraction is zero. -/
def isInteger (operands : Operands) : Bool :=
  operands.fraction = 0

/-- Whether no fraction digits are visible. -/
def hasNoPlaces (operands : Operands) : Bool :=
  operands.places = 0

/-- Drop up to `count` zeros from the end of a number. -/
def dropZeros : Nat -> Nat -> Nat
  | 0, n => n
  | count + 1, n => if n % 10 = 0 then dropZeros count (n / 10) else n

/-- How many fraction digits a decimal shows. -/
def visiblePlaces (d : Decimal) : Nat :=
  (-d.exponent).toNat

/-- How many digits the whole part of a decimal shows; a part of zero shows one. -/
def wholeDigits (d : Decimal) : Nat :=
  if d.coefficient = 0 then 1 else max 1 (d.adjusted + 1).toNat

/-- The whole part of a decimal. -/
def wholePart (d : Decimal) : Nat :=
  if d.coefficient = 0 then
    0
  else
    d.coefficient * Nat.pow 10 d.exponent.toNat / Nat.pow 10 (visiblePlaces d)

/-- The visible fraction digits of a decimal as a number. -/
def fractionPart (d : Decimal) : Nat :=
  d.coefficient % Nat.pow 10 (visiblePlaces d)

/-- Take a decimal apart, unless it is too large or too long on one side of the point. -/
def ofDecimal (d : Decimal) : Except NumberError Operands := do
  let magnitude ← d.magnitude
  checkDigitCount (wholeDigits d)
  checkDigitCount (visiblePlaces d)
  return {
    value := d
    magnitude := magnitude
    whole := wholePart d
    places := visiblePlaces d
    fraction := fractionPart d
    significant := dropZeros (visiblePlaces d) (fractionPart d) }

end Operands

namespace Value

/-- The text of a number as it is classified; a whole binary number has no fraction digits. -/
def numeral? (value : Value) : Option String :=
  match value with
  | .integer value => some (Int.repr value)
  | .float (.finite negative significand exponent) =>
      some (Value.float (.finite negative significand exponent)).shown
  | .decimal (.finite value) => some value.text
  | value => value.text?.map Text.stripped

/-- The finite number that a value stands for. -/
def decimal? (value : Value) : Option Decimal :=
  value.numeral?.bind fun text => (ExtendedDecimal.ofText? text).bind ExtendedDecimal.finite?

/-- Whether a value is a whole number that cannot be written, and so not be taken apart. -/
def isUnwritableInteger : Value -> Bool
  | .integer value => !Concord.isWritable value
  | _ => false

/-- The plural operands of a value that stands for a finite number. -/
def operands (value : Value) : Except NumberError (Option Operands) :=
  if value.isUnwritableInteger then
    .error .unwritable
  else
    match value.decimal? with
    | none => .ok none
    | some d => (Operands.ofDecimal d).map some

/--
Whether a value is a number equal to zero, of whatever sign and digits.  A
signaling undefined number refuses to be compared.
-/
def isNumericZero : Value -> Except NumberError Bool
  | .integer value => .ok (value = 0)
  | .float (.finite _ significand _) => .ok (significand = 0)
  | .decimal (.finite value) => .ok (value.coefficient = 0)
  | .decimal (.undefined _ true _) => .error .signaling
  | _ => .ok false

end Value
end Concord
