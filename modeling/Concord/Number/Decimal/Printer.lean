import Concord.Number.Decimal.Basic

/-!
# Written decimals

A decimal is written with a point where its exponent puts it, unless the
exponent is positive or the number lies far below one; then it is written
with one digit before the point and the exponent after an `E`.
-/

namespace Concord
namespace Decimal

/-- Put a point before the last `places` digits, filling up with zeros in front. -/
def withPoint (places : Nat) (digits : List Char) : List Char :=
  if places = 0 then
    digits
  else
    let filled := List.replicate (places + 1 - digits.length) '0' ++ digits
    filled.take (filled.length - places) ++ '.' :: filled.drop (filled.length - places)

/-- Put a point behind the first digit, unless it is the only one. -/
def pointAfterFirst : List Char -> List Char
  | first :: second :: rest => first :: '.' :: second :: rest
  | digits => digits

/-- A signed exponent, a plus sign included. -/
def signedExponent (exponent : Int) : List Char :=
  (if exponent < 0 then '-' else '+') :: Nat.toDigits 10 exponent.natAbs

/-- The least leading exponent that is still written without an exponent mark. -/
def leastPlainExponent : Int := -6

/-- The characters of a decimal without its sign. -/
def unsignedChars (d : Decimal) : List Char :=
  if d.exponent ≤ 0 ∧ leastPlainExponent ≤ d.adjusted then
    withPoint (-d.exponent).toNat d.digits
  else
    pointAfterFirst d.digits ++
      (if d.adjusted = 0 then [] else 'E' :: signedExponent d.adjusted)

/-- The characters of a decimal. -/
def chars (d : Decimal) : List Char :=
  if d.negative then '-' :: d.unsignedChars else d.unsignedChars

/-- A decimal as text. -/
def text (d : Decimal) : String :=
  String.ofList d.chars

end Decimal

namespace ExtendedDecimal

/-- A decimal, an infinity or an undefined number as text. -/
def text : ExtendedDecimal -> String
  | .finite value => value.text
  | .infinite negative => (if negative then "-" else "") ++ "Infinity"
  | .undefined negative signaling payload =>
      (if negative then "-" else "") ++ (if signaling then "s" else "") ++ "NaN" ++
        (if payload = 0 then "" else Nat.repr payload)

end ExtendedDecimal
end Concord
