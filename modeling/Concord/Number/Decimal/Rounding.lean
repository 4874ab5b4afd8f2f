import Concord.Number.Decimal.Basic
import Concord.Number.Error
import Concord.Number.Quotient

/-!
# Rounding in the working context

Arithmetic on decimals is done with a fixed number of digits and a bounded
exponent.  A coefficient that is too long is rounded to the nearest, a half to
the even neighbour; a result above the largest exponent is an error.
-/

namespace Concord
namespace Decimal

/-- How many digits the result of an operation keeps. -/
def precision : Nat := 28

/-- The largest exponent of a leading digit. -/
def largestExponent : Int := 999999

/-- Drop the last `places` digits by rounding. -/
def dropDigits (d : Decimal) (places : Nat) : Decimal :=
  { d with
    coefficient := roundedQuotient d.coefficient (Nat.pow 10 places)
    exponent := d.exponent + places }

/-- Round to at most `count` digits; a carry may add a digit that is dropped again. -/
def roundTo (count : Nat) (d : Decimal) : Decimal :=
  let once := d.dropDigits (d.digitCount - count)
  once.dropDigits (once.digitCount - count)

/--
The size of a number as the working context computes it.  The context also has
a least exponent; a number below it has far more fraction digits than can be
read, so that bound never shows.
-/
def magnitude (d : Decimal) : Except NumberError Decimal :=
  if d.coefficient = 0 then
    .ok ⟨false, 0, min largestExponent d.exponent⟩
  else
    let rounded := d.abs.roundTo precision
    if largestExponent < rounded.adjusted then .error .overflow else .ok rounded

end Decimal
end Concord
