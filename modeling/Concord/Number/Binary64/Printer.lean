import Concord.Number.Binary64.Shortest
import Concord.Number.Decimal.Printer

/-!
# Written binary numbers

A binary number is written with the digits of its shortest decimal, with a
point for leading exponents from `-4` to `15` and with an exponent mark
otherwise.
-/

namespace Concord
namespace Binary64

/-- The least leading exponent written without an exponent mark. -/
def leastPlainExponent : Int := -4

/-- The first leading exponent written with an exponent mark. -/
def firstMarkedExponent : Int := 16

/-- An exponent of at least two digits, sign included. -/
def markedExponent (exponent : Int) : List Char :=
  let digits := Nat.toDigits 10 exponent.natAbs
  (if exponent < 0 then '-' else '+') :: List.replicate (2 - digits.length) '0' ++ digits

/-- The characters of `coefficient · 10 ^ exponent`; a whole number shows one fraction zero. -/
def decimalChars (coefficient : Nat) (exponent : Int) : List Char :=
  let digits := Nat.toDigits 10 coefficient
  let leading := exponent + digits.length - 1
  if leastPlainExponent ≤ leading ∧ leading < firstMarkedExponent then
    if 0 ≤ exponent then
      digits ++ List.replicate exponent.toNat '0' ++ ['.', '0']
    else
      Decimal.withPoint (-exponent).toNat digits
  else
    Decimal.pointAfterFirst digits ++ 'e' :: markedExponent leading

/-- A binary number as text. -/
def text : Binary64 -> String
  | .undefined => "nan"
  | .infinite negative => if negative then "-inf" else "inf"
  | .finite negative significand exponent =>
      let (coefficient, place) := shortestDecimal significand exponent
      let cs := decimalChars coefficient place
      String.ofList (if negative then '-' :: cs else cs)

end Binary64
end Concord
