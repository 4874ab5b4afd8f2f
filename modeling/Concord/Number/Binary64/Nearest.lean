import Concord.Number.Binary64.Basic
import Concord.Number.Quotient

/-!
# The binary number nearest to a decimal

A decimal is measured in units of the smallest positive binary number and
rounded to as many leading bits as a significand holds, a half to the even
neighbour.  Decimals far outside the range are not expanded.
-/

namespace Concord
namespace Binary64

/-- How many bits follow the leading one of a normal significand. -/
def fractionBits : Nat := 52

/-- The exponent of the largest numbers. -/
def largestExponent : Int := 971

/-- A decimal whose leading exponent is at least this is too large for the format. -/
def overflowExponent : Int := 310

/-- A decimal whose leading exponent is at most this rounds to zero. -/
def underflowExponent : Int := -326

/-- The number of `significand · 2 ^ (leastExponent + shift)`, a carry moved into the exponent. -/
def ofShifted (negative : Bool) (significand shift : Nat) : Binary64 :=
  if significand = 2 * hiddenBit then
    if largestExponent ≤ leastExponent + shift then
      .infinite negative
    else
      .finite negative hiddenBit (leastExponent + shift + 1)
  else if largestExponent < leastExponent + shift then
    .infinite negative
  else
    .finite negative significand (leastExponent + shift)

/-- The number nearest to `numerator / denominator` units of the smallest positive number. -/
def ofUnits (negative : Bool) (numerator denominator : Nat) : Binary64 :=
  let shift := (numerator / denominator).log2 - fractionBits
  ofShifted negative (roundedQuotient numerator (denominator * Nat.pow 2 shift)) shift

/-- The number nearest to a finite decimal. -/
def ofDecimal (d : Decimal) : Binary64 :=
  if d.coefficient = 0 ∨ d.adjusted ≤ underflowExponent then
    .finite d.negative 0 leastExponent
  else if overflowExponent ≤ d.adjusted then
    .infinite d.negative
  else
    ofUnits d.negative
      (d.coefficient * Nat.pow 10 d.exponent.toNat * Nat.pow 2 (-leastExponent).toNat)
      (Nat.pow 10 (-d.exponent).toNat)

/-- The number nearest to a decimal, an infinity or an undefined number. -/
def nearest : ExtendedDecimal -> Binary64
  | .finite d => ofDecimal d
  | .infinite negative => .infinite negative
  | .undefined .. => .undefined

end Binary64
end Concord
