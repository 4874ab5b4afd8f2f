import Concord.Number.Decimal.Basic
import Concord.Text.Blank
import Concord.Text.Digit

/-!
# Reading decimals

A decimal may be written with a sign, a point and an exponent, in the digits
of any script, with blanks around it and underscores anywhere between.
Infinities and undefined numbers are written as words.  What is read is exact:
a number outside the range of exponents is refused and never rounded.
-/

namespace Concord
namespace ExtendedDecimal

/-- The largest exponent of a leading digit that can be read. -/
def largestReadable : Int := 999999999999999999

/-- The smallest exponent of a last digit that can be read. -/
def leastReadable : Int := -1999999999999999997

/-- One character in ASCII, digits of other scripts turned into ASCII digits. -/
def asciiForm? (c : Char) : Option Char :=
  if c.toNat < 0x80 then
    some c
  else if Text.isBlank c then
    some ' '
  else
    (Text.digitValue? c).map Text.asciiDigit

/-- The characters that are read: blanks around and underscores dropped, letters small. -/
def normalForm? (cs : List Char) : Option (List Char) :=
  (((Text.trimBlanks cs).filter fun c => c ≠ '_').mapM asciiForm?).map
    fun ascii => ascii.map Char.toLower

/-- Split a sign off the front; without one the number is positive. -/
def splitSign : List Char -> Bool × List Char
  | '-' :: rest => (true, rest)
  | '+' :: rest => (false, rest)
  | cs => (false, cs)

/-- A whole number written in digits only, at least one. -/
def numeral? (cs : List Char) : Option Nat :=
  if cs ≠ [] ∧ cs.all Char.isDigit then some (Nat.ofDigitChars 10 cs 0) else none

/-- The exponent behind the digits; nothing stands for zero. -/
def exponent? : List Char -> Option Int
  | [] => some 0
  | 'e' :: rest =>
      let (negative, cs) := splitSign rest
      (numeral? cs).map fun size => if negative then -(size : Int) else size
  | _ => none

/-- The digits behind a point and what follows them. -/
def splitFraction : List Char -> List Char × List Char
  | '.' :: rest => (rest.takeWhile Char.isDigit, rest.dropWhile Char.isDigit)
  | cs => ([], cs)

/-- Whether the exponents of a number are inside the readable range. -/
def inRange (d : Decimal) : Bool :=
  leastReadable ≤ d.exponent &&
    (if d.coefficient = 0 then d.exponent ≤ largestReadable else d.adjusted ≤ largestReadable)

/-- A number in digits, without its sign. -/
def readFinite (negative : Bool) (cs : List Char) : Option Decimal :=
  let whole := cs.takeWhile Char.isDigit
  let (fraction, rest) := splitFraction (cs.dropWhile Char.isDigit)
  match numeral? (whole ++ fraction), exponent? rest with
  | some coefficient, some exponent =>
      let d : Decimal := ⟨negative, coefficient, exponent - fraction.length⟩
      if inRange d then some d else none
  | _, _ => none

/-- The payload of an undefined number; it may be left out. -/
def payload? (cs : List Char) : Option Nat :=
  if cs.all Char.isDigit then some (Nat.ofDigitChars 10 cs 0) else none

/-- A number or a word, without its sign. -/
def readUnsigned (negative : Bool) (cs : List Char) : Option ExtendedDecimal :=
  match cs with
  | 'n' :: 'a' :: 'n' :: rest => (payload? rest).map (.undefined negative false)
  | 's' :: 'n' :: 'a' :: 'n' :: rest => (payload? rest).map (.undefined negative true)
  | _ =>
      if cs = "inf".toList ∨ cs = "infinity".toList then
        some (.infinite negative)
      else
        (readFinite negative cs).map .finite

/-- Read a list of characters as a decimal. -/
def ofChars? (cs : List Char) : Option ExtendedDecimal :=
  (normalForm? cs).bind fun normal =>
    let (negative, rest) := splitSign normal
    readUnsigned negative rest

/-- Read a text as a decimal. -/
def ofText? (text : String) : Option ExtendedDecimal :=
  ofChars? text.toList

end ExtendedDecimal
end Concord
