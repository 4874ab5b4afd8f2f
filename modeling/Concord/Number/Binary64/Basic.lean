import Concord.Number.Decimal.Basic

/-!
# Binary floating-point numbers

A finite number of the 64-bit format is a signed significand times a power of
two.  Zero keeps its sign.
-/

namespace Concord

/-- A number of the 64-bit binary format; finite ones are `± significand · 2 ^ exponent`. -/
inductive Binary64
  | undefined
  | infinite (negative : Bool)
  | finite (negative : Bool) (significand : Nat) (exponent : Int)
  deriving DecidableEq

namespace Binary64

/-- The least significand of a normal number. -/
def hiddenBit : Nat := 0x10000000000000

/-- The exponent of the smallest numbers. -/
def leastExponent : Int := -1074

/-- The number that a 64-bit pattern stands for. -/
def ofBits (bits : UInt64) : Binary64 :=
  let negative := bits.toNat / 0x8000000000000000 == 1
  let biased : Nat := bits.toNat / hiddenBit % 0x800
  let fraction : Nat := bits.toNat % hiddenBit
  if biased = 0x7ff then
    if fraction = 0 then .infinite negative else .undefined
  else if biased = 0 then
    .finite negative fraction leastExponent
  else
    .finite negative (hiddenBit + fraction) (leastExponent + biased - 1)

/-- The signed whole number, if the number has no fraction. -/
def whole? : Binary64 -> Option Int
  | .finite negative significand exponent =>
      let unit := Nat.pow 2 (-exponent).toNat
      if significand % unit = 0 then
        let size := Int.ofNat (significand / unit * Nat.pow 2 exponent.toNat)
        some (if negative then -size else size)
      else
        none
  | _ => none

/-- The number as a decimal, digit for digit. -/
def toDecimal : Binary64 -> ExtendedDecimal
  | .undefined => .undefined false false 0
  | .infinite negative => .infinite negative
  | .finite negative significand exponent =>
      let places := (-exponent).toNat
      .finite ⟨negative, significand * Nat.pow 2 exponent.toNat * Nat.pow 5 places, -places⟩

end Binary64
end Concord
