/-!
# Finite decimal numbers

A decimal keeps the coefficient and the exponent it was written with, so
`1.0` and `1` are equal in size and different as decimals.  Comparison is
exact and never expands a large exponent: numbers of different orders of
magnitude are told apart by their leading digits alone.
-/

namespace Concord

/-- The number `± coefficient · 10 ^ exponent`. -/
structure Decimal where
  /-- Whether the sign is a minus; a zero has a sign too. -/
  negative : Bool
  /-- The digits, as a whole number. -/
  coefficient : Nat
  /-- The power of ten that the digits are scaled by. -/
  exponent : Int
  deriving DecidableEq

namespace Decimal

/-- A whole number without fraction digits. -/
def ofNat (n : Nat) : Decimal :=
  ⟨false, n, 0⟩

/-- A signed whole number without fraction digits. -/
def ofInt (n : Int) : Decimal :=
  ⟨n < 0, n.natAbs, 0⟩

/-- The digits of the coefficient, most significant first. -/
def digits (d : Decimal) : List Char :=
  Nat.toDigits 10 d.coefficient

/-- How many digits the coefficient has; zero has one. -/
def digitCount (d : Decimal) : Nat :=
  d.digits.length

theorem digitCount_le_iff
    {d : Decimal}
    {count : Nat}
    (positive : 0 < count) :
    d.digitCount ≤ count ↔ d.coefficient < Nat.pow 10 count :=
  Nat.length_toDigits_le_iff (by decide) positive

theorem digitCount_pos (d : Decimal) : 0 < d.digitCount :=
  Nat.length_toDigits_pos

/-- A coefficient is at least as large as the least one with as many digits. -/
theorem pow_digitCount_le
    {d : Decimal}
    (nonzero : d.coefficient ≠ 0) :
    Nat.pow 10 (d.digitCount - 1) ≤ d.coefficient := by
  by_cases single : d.digitCount ≤ 1
  · rw [Nat.sub_eq_zero_of_le single]
    exact Nat.pos_of_ne_zero nonzero
  · have longer : ¬ d.digitCount ≤ d.digitCount - 1 := by omega
    rw [digitCount_le_iff (by omega)] at longer
    exact Nat.not_lt.mp longer

/-- The exponent of the leading digit. -/
def adjusted (d : Decimal) : Int :=
  d.exponent + d.digitCount - 1

/-- The sign of the number: `-1`, `0` or `1`. -/
def sign (d : Decimal) : Int :=
  if d.coefficient = 0 then 0 else if d.negative then -1 else 1

/-- The number in units of `10 ^ scale`, for a scale no larger than the exponent. -/
def scaled (d : Decimal) (scale : Int) : Int :=
  let size : Int := (d.coefficient * Nat.pow 10 (d.exponent - scale).toNat : Nat)
  if d.negative then -size else size

/-- The order of two numbers by size. -/
def compare (left right : Decimal) : Ordering :=
  if left.sign ≠ right.sign ∨ left.sign = 0 then
    Ord.compare left.sign right.sign
  else if left.adjusted ≠ right.adjusted then
    Ord.compare (left.sign * left.adjusted) (right.sign * right.adjusted)
  else
    let scale := min left.exponent right.exponent
    Ord.compare (left.scaled scale) (right.scaled scale)

/-- Whether the number is the given whole number. -/
def isNat (d : Decimal) (n : Nat) : Bool :=
  d.compare (ofNat n) == .eq

/-- Whether the number lies strictly below a whole number. -/
def isBelow (d : Decimal) (n : Int) : Bool :=
  d.compare (ofInt n) == .lt

/-- Whether the number lies strictly above a whole number. -/
def isAbove (d : Decimal) (n : Int) : Bool :=
  d.compare (ofInt n) == .gt

/-- The number without its sign. -/
def abs (d : Decimal) : Decimal :=
  { d with negative := false }

/-- The size of a number without a fraction; one that lies below one is not expanded. -/
def wholeSize? (d : Decimal) : Option Nat :=
  if d.coefficient = 0 then some 0
  else if d.adjusted < 0 then none
  else if d.coefficient % Nat.pow 10 (-d.exponent).toNat = 0 then
    some (d.coefficient / Nat.pow 10 (-d.exponent).toNat * Nat.pow 10 d.exponent.toNat)
  else none

/-- The signed whole number, if the number has no fraction. -/
def whole? (d : Decimal) : Option Int :=
  d.wholeSize?.map fun size => if d.negative then -(size : Int) else size

end Decimal

/-- A decimal number, an infinity or an undefined number. -/
inductive ExtendedDecimal
  | finite (value : Decimal)
  | infinite (negative : Bool)
  | undefined (negative signaling : Bool) (payload : Nat)
  deriving DecidableEq

namespace ExtendedDecimal

/-- The number, if it is finite. -/
def finite? : ExtendedDecimal -> Option Decimal
  | .finite value => some value
  | _ => none

/-- Whether two numbers have the same size; an undefined number equals nothing. -/
def sameSize : ExtendedDecimal -> ExtendedDecimal -> Bool
  | .finite left, .finite right => left.compare right == .eq
  | .infinite left, .infinite right => left == right
  | _, _ => false

end ExtendedDecimal
end Concord
