import Concord.Plural.Category
import Concord.Plural.Operands

/-!
# Plural rules

Each rule sorts the operands of a number into categories.  Several languages
share a rule; a rule that serves one language or a family is named after it,
the others after the numbers that they call one.
-/

namespace Concord

/-- The ways in which languages sort numbers. -/
inductive PluralRule
  | unit
  | zeroOrUnit
  | plainOne
  | plainUnit
  | zeroToOne
  | zeroBelowTwo
  | arabic
  | czech
  | danish
  | eastSlavic
  | french
  | hebrew
  | icelandic
  | irish
  | latvian
  | lithuanian
  | macedonian
  | maltese
  | polish
  | romanian
  | slovenian
  | southSlavic
  | tagalog
  | welsh
  deriving DecidableEq

namespace PluralRule

/-- Whether a number lies between two others, both included. -/
def between (low high n : Nat) : Bool :=
  low ≤ n && n ≤ high

/-- Whether a number ends in the digit one, eleven left out. -/
def endsInOne (n : Nat) : Bool :=
  n % 10 = 1 && n % 100 ≠ 11

/-- Whether a number ends in two, three or four, the teens left out. -/
def endsInFew (n : Nat) : Bool :=
  between 2 4 (n % 10) && !between 12 14 (n % 100)

/-- `one` for the numbers that pass a test, `other` for the rest. -/
def oneWhen (test : Bool) : PluralCategory :=
  if test then .one else .other

/-- Arabic: zero, one and two stand alone, then the last two digits of whole numbers decide. -/
def arabicCategory (op : Operands) : PluralCategory :=
  if op.value.isNat 0 then .zero
  else if op.value.isNat 1 then .one
  else if op.value.isNat 2 then .two
  else if op.isInteger && between 3 10 (op.whole % 100) then .few
  else if op.isInteger && between 11 99 (op.whole % 100) then .many
  else .other

/-- Czech and Slovak: few for two to four, many for all that shows a fraction. -/
def czechCategory (op : Operands) : PluralCategory :=
  if op.value.isNat 1 && op.hasNoPlaces then .one
  else if between 2 4 op.whole && op.hasNoPlaces then .few
  else if !op.hasNoPlaces then .many
  else .other

/-- Danish: one, and fractions with a whole part of zero or one. -/
def danishCategory (op : Operands) : PluralCategory :=
  oneWhen (op.magnitude.isNat 1 || (!op.isInteger && between 0 1 op.whole))

/-- Russian and Ukrainian: the last two digits decide, and fractions are other. -/
def eastSlavicCategory (op : Operands) : PluralCategory :=
  if op.hasNoPlaces && endsInOne op.whole then .one
  else if op.hasNoPlaces && endsInFew op.whole then .few
  else if op.hasNoPlaces &&
      (op.whole % 10 = 0 || between 5 9 (op.whole % 10) || between 11 14 (op.whole % 100)) then
    .many
  else .other

/-- Hebrew: one, fractions below one, and two. -/
def hebrewCategory (op : Operands) : PluralCategory :=
  if (op.whole = 1 && op.hasNoPlaces) || (op.whole = 0 && !op.hasNoPlaces) then .one
  else if op.whole = 2 && op.hasNoPlaces then .two
  else .other

/-- Irish: one and two, few up to six and many up to ten. -/
def irishCategory (op : Operands) : PluralCategory :=
  if op.value.isNat 1 then .one
  else if op.value.isNat 2 then .two
  else if op.isInteger && op.value.isAbove 2 && op.value.isBelow 7 then .few
  else if op.isInteger && op.value.isAbove 6 && op.value.isBelow 11 then .many
  else .other

/-- Latvian: tens and teens are zero, endings in one are one, also those of the fraction. -/
def latvianCategory (op : Operands) : PluralCategory :=
  if op.isInteger && (op.whole % 10 = 0 || between 11 19 (op.whole % 100)) then .zero
  else if op.places = 2 && between 11 19 (op.fraction % 100) then .zero
  else if op.isInteger && endsInOne op.whole then .one
  else if op.places = 2 && endsInOne op.fraction then .one
  else if op.places ≠ 2 && 0 < op.places && op.fraction % 10 = 1 then .one
  else .other

/-- Lithuanian: the last digit outside the teens decides, and fractions are many. -/
def lithuanianCategory (op : Operands) : PluralCategory :=
  if op.isInteger && op.whole % 10 = 1 && !between 11 19 (op.whole % 100) then .one
  else if op.isInteger && between 2 9 (op.whole % 10) && !between 11 19 (op.whole % 100) then .few
  else if op.fraction ≠ 0 then .many
  else .other

/-- Maltese: one and two, few for zero and up to ten, many for the teens. -/
def malteseCategory (op : Operands) : PluralCategory :=
  if op.value.isNat 1 then .one
  else if op.value.isNat 2 then .two
  else if op.value.isNat 0 || (op.isInteger && between 3 10 (op.whole % 100)) then .few
  else if op.isInteger && between 11 19 (op.whole % 100) then .many
  else .other

/-- Polish: one stands alone, else as the last two digits say, and fractions are other. -/
def polishCategory (op : Operands) : PluralCategory :=
  if op.value.isNat 1 && op.hasNoPlaces then .one
  else if op.hasNoPlaces && endsInFew op.whole then .few
  else if op.hasNoPlaces &&
      ((op.whole ≠ 1 && between 0 1 (op.whole % 10)) || between 5 9 (op.whole % 10) ||
        between 12 14 (op.whole % 100)) then
    .many
  else .other

/-- Romanian: few for fractions, zero and endings up to nineteen. -/
def romanianCategory (op : Operands) : PluralCategory :=
  if op.value.isNat 1 && op.hasNoPlaces then .one
  else if !op.hasNoPlaces || op.value.isNat 0 ||
      (!op.value.isNat 1 && op.isInteger && between 1 19 (op.whole % 100)) then
    .few
  else .other

/-- Slovenian: the last two digits one, two, and three or four; fractions are few. -/
def slovenianCategory (op : Operands) : PluralCategory :=
  if op.hasNoPlaces && op.whole % 100 = 1 then .one
  else if op.hasNoPlaces && op.whole % 100 = 2 then .two
  else if (op.hasNoPlaces && between 3 4 (op.whole % 100)) || !op.hasNoPlaces then .few
  else .other

/-- Serbian and its neighbours: the last digits of the whole part or of the fraction decide. -/
def southSlavicCategory (op : Operands) : PluralCategory :=
  if (op.hasNoPlaces && endsInOne op.whole) || endsInOne op.fraction then .one
  else if (op.hasNoPlaces && endsInFew op.whole) || endsInFew op.fraction then .few
  else .other

/-- Tagalog: endings in four, six and nine are other. -/
def tagalogCategory (op : Operands) : PluralCategory :=
  let endsOther (n : Nat) : Bool := n % 10 = 4 || n % 10 = 6 || n % 10 = 9
  if op.hasNoPlaces && (between 1 3 op.whole || !endsOther op.whole) then .one
  else if !op.hasNoPlaces && !endsOther op.fraction then .one
  else .other

/-- Welsh: zero, one, two, three and six stand alone. -/
def welshCategory (op : Operands) : PluralCategory :=
  if !op.isInteger then .other
  else if op.value.isNat 0 then .zero
  else if op.value.isNat 1 then .one
  else if op.value.isNat 2 then .two
  else if op.value.isNat 3 then .few
  else if op.value.isNat 6 then .many
  else .other

/-- The category of a number under a rule. -/
def category : PluralRule -> Operands -> PluralCategory
  | .unit, op => oneWhen (op.magnitude.isNat 1)
  | .zeroOrUnit, op => oneWhen (op.magnitude.isNat 0 || op.magnitude.isNat 1)
  | .plainOne, op => oneWhen (op.value.isNat 1 && op.hasNoPlaces)
  | .plainUnit, op => oneWhen (op.magnitude.isNat 1 && op.hasNoPlaces)
  | .zeroToOne, op => oneWhen (!op.value.isBelow 0 && !op.value.isAbove 1)
  | .zeroBelowTwo, op => oneWhen (!op.value.isBelow 0 && op.value.isBelow 2)
  | .french, op => oneWhen (op.value.isAbove (-1) && op.value.isBelow 2)
  | .icelandic, op => oneWhen (op.isInteger && endsInOne op.whole)
  | .macedonian, op =>
      oneWhen ((op.hasNoPlaces && endsInOne op.whole) || endsInOne op.fraction)
  | .arabic, op => arabicCategory op
  | .czech, op => czechCategory op
  | .danish, op => danishCategory op
  | .eastSlavic, op => eastSlavicCategory op
  | .hebrew, op => hebrewCategory op
  | .irish, op => irishCategory op
  | .latvian, op => latvianCategory op
  | .lithuanian, op => lithuanianCategory op
  | .maltese, op => malteseCategory op
  | .polish, op => polishCategory op
  | .romanian, op => romanianCategory op
  | .slovenian, op => slovenianCategory op
  | .southSlavic, op => southSlavicCategory op
  | .tagalog, op => tagalogCategory op
  | .welsh, op => welshCategory op

end PluralRule
end Concord
