import Concord.Intake.Truth
import Concord.Number.Decimal.Reader

/-!
# Whole numbers from values

A whole number written in digits may have white space around it, a sign, zeros
in front, single underscores between digits and a fraction of zeros.  Among the
zeros in front underscores stand freely, and behind them the number may carry a
minus sign of its own, though no more zeros.  A text that opens with a number
too long to be read is oversized, whatever follows; a number that is too long
behind anything else is unreadable.
-/

namespace Concord

/-- What is left of a written number without a fraction that consists of zeros. -/
def withoutZeroFraction (cs : List Char) : List Char :=
  let fraction := (cs.dropWhile fun c => c ≠ '.').drop 1
  if fraction ≠ [] ∧ fraction.all (· = '0') then cs.takeWhile fun c => c ≠ '.' else cs

/-- Whether a character may stand among the zeros in front of a number. -/
def isIdle (c : Char) : Bool :=
  c = '0' || c = '_'

/--
What is left of a written number without the zeros in front.  It starts with a
digit; nothing but idle marks leaves the last of them.
-/
def withoutLeadingZeros? : List Char -> Option (List Char)
  | [] => none
  | first :: rest =>
      if first = '0' then
        match rest.dropWhile isIdle with
        | [] => some [(first :: rest).getLast (by simp)]
        | next :: others =>
            if next.isDigit || next = '-' then some (next :: others) else none
      else if first.isDigit then
        some (first :: rest)
      else
        none

/-- Whether an underscore stands at the end of a number or before another one. -/
def hasLooseSeparator : List Char -> Bool
  | [] => false
  | [last] => last = '_'
  | '_' :: '_' :: _ => true
  | _ :: rest => hasLooseSeparator rest

/-- A written number without underscores, none of which may be loose or in front. -/
def withoutSeparators? (cs : List Char) : Option (List Char) :=
  if cs.head? = some '_' ∨ hasLooseSeparator cs then
    none
  else
    some (cs.filter fun c => c ≠ '_')

/-- Digits that no zero stands in front of; zero itself is one digit. -/
def isPlainNumeral : List Char -> Bool
  | [] => false
  | ['0'] => true
  | first :: rest => first ≠ '0' && (first :: rest).all Char.isDigit

/-- A whole number in plain digits, unless there are too many of them. -/
def plainNumber? (negative : Bool) (digits : List Char) : Option Int :=
  if isPlainNumeral digits && digits.length ≤ digitLimit then
    let size : Int := Nat.ofDigitChars 10 digits 0
    some (if negative then -size else size)
  else
    none

/-- A whole number in plain digits that a minus sign may stand before. -/
def plainInteger? : List Char -> Option Int
  | '-' :: digits => plainNumber? true digits
  | digits => plainNumber? false digits

/-- A whole number with all that may stand around and between its digits. -/
def looseInteger? (cs : List Char) : Option Int :=
  let trimmed := withoutZeroFraction (Text.trimBy Text.isWhitespace cs)
  let (negative, unsigned) := ExtendedDecimal.splitSign trimmed
  ((withoutLeadingZeros? unsigned).bind withoutSeparators?).bind fun plain =>
    plainInteger? (if negative then '-' :: plain else plain)

/-- The run of digits that a text opens with, a minus sign before it left out. -/
def openingDigits : List Char -> List Char
  | '-' :: rest => rest.takeWhile Char.isDigit
  | cs => cs.takeWhile Char.isDigit

/-- Whether a text opens with a whole number that is too long to be read. -/
def opensOversized (cs : List Char) : Bool :=
  (openingDigits cs).head? ≠ some '0' && digitLimit < (openingDigits cs).length

/-- A whole number written in digits. -/
def readInteger (text : String) : Except FieldFault Int :=
  if opensOversized text.toList then
    .error .oversizedInteger
  else
    match looseInteger? text.toList with
    | some n => .ok n
    | none => .error .unreadableInteger

/-- A whole number or nothing, also as a truth value, another number or a text. -/
def readInteger? (value : Value) : Except FieldFault (Option Int) :=
  match value with
  | .null => .ok none
  | .truth value => .ok (some value.toNat)
  | .integer value => .ok (some value)
  | .float (.finite negative significand exponent) =>
      let value : Binary64 := .finite negative significand exponent
      match value.whole?, value.word? with
      | none, _ => .error .fractionalInteger
      | some _, none => .error .oversizedInteger
      | some _, some n => .ok (some n)
  | .float _ => .error .notFinite
  | .decimal (.finite value) =>
      match value.whole? with
      | some n => .ok (some n)
      | none => .error .fractionalInteger
  | .decimal _ => .error .notFinite
  | value =>
      match value.spelling with
      | .text content => (readInteger content).map some
      | .broken => .error .unreadableInteger
      | .notText => .error .notInteger

end Concord
