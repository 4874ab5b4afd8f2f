import Concord.Number.Binary64.Basic

/-!
# The shortest decimal of a binary number

Every finite binary number owns the interval of reals that round to it.  Its
shortest decimal is the point of the coarsest decimal grid that meets the
interval, the nearer one if two do.  Seventeen digits always suffice.
-/

namespace Concord
namespace Binary64

/-- A positive number and the ends of its rounding interval, over one denominator. -/
structure Interval where
  /-- The numerator of the lower end. -/
  lower : Nat
  /-- The numerator of the number itself. -/
  value : Nat
  /-- The numerator of the upper end. -/
  upper : Nat
  /-- The denominator that all three share. -/
  denominator : Nat
  /-- Whether the ends round to the number too. -/
  closed : Bool

namespace Interval

/-- The interval of `significand · 2 ^ exponent`; below a power of two it is only half as wide. -/
def ofFinite (significand : Nat) (exponent : Int) : Interval :=
  let scale := Nat.pow 2 (exponent - 2).toNat
  let below := if significand = hiddenBit ∧ leastExponent < exponent then 1 else 2
  { lower := (4 * significand - below) * scale
    value := 4 * significand * scale
    upper := (4 * significand + 2) * scale
    denominator := Nat.pow 2 (2 - exponent).toNat
    closed := significand % 2 = 0 }

/-- The number `p` with `10 ^ (p - 1) ≤ value < 10 ^ p`. -/
def pointPosition (interval : Interval) : Int :=
  if interval.denominator ≤ interval.value then
    (Nat.toDigits 10 (interval.value / interval.denominator)).length
  else
    let length := (Nat.toDigits 10 (interval.denominator / interval.value)).length
    if interval.denominator ≤ Nat.pow 10 (length - 1) * interval.value then
      2 - (length : Int)
    else
      1 - (length : Int)

/-- Whether the decimal `coefficient · 10 ^ exponent` lies in the interval. -/
def holds (interval : Interval) (coefficient : Nat) (exponent : Int) : Bool :=
  let point := coefficient * Nat.pow 10 exponent.toNat * interval.denominator
  let scale := Nat.pow 10 (-exponent).toNat
  if interval.closed then
    interval.lower * scale ≤ point && point ≤ interval.upper * scale
  else
    interval.lower * scale < point && point < interval.upper * scale

/-- The point of the grid of `10 ^ exponent` that lies in the interval and next to the value. -/
def gridPoint? (interval : Interval) (exponent : Int) : Option Nat :=
  let unit := Nat.pow 10 exponent.toNat * interval.denominator
  let value := interval.value * Nat.pow 10 (-exponent).toNat
  let floor := value / unit
  match interval.holds floor exponent, interval.holds (floor + 1) exponent with
  | true, true =>
      let twice := 2 * (value % unit)
      some (if twice < unit ∨ (twice = unit ∧ floor % 2 = 0) then floor else floor + 1)
  | true, false => some floor
  | false, true => some (floor + 1)
  | false, false => none

/-- The first hit among the grids of one, two, … seventeen digits. -/
def shortest (interval : Interval) : Nat × Int :=
  let hits := (List.range 17).findSome? fun (i : Nat) =>
    let exponent := interval.pointPosition - (i + 1 : Nat)
    (interval.gridPoint? exponent).map fun coefficient => (coefficient, exponent)
  hits.getD (0, 0)

end Interval

/-- Move the zeros at the end of a coefficient into the exponent. -/
def dropTrailingZeros (coefficient : Nat) (exponent : Int) : Nat × Int :=
  let digits := Nat.toDigits 10 coefficient
  let zeros := (digits.reverse.takeWhile (· = '0')).length
  (coefficient / Nat.pow 10 zeros, exponent + zeros)

/-- The shortest decimal that reads back as `significand · 2 ^ exponent`. -/
def shortestDecimal (significand : Nat) (exponent : Int) : Nat × Int :=
  if significand = 0 then
    (0, 0)
  else
    let (coefficient, place) := (Interval.ofFinite significand exponent).shortest
    dropTrailingZeros coefficient place

end Binary64
end Concord
