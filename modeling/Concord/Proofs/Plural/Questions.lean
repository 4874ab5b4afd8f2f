import Concord.Plural.Rule

/-!
# What rules ask

A rule asks few questions about a number: how it compares with the numbers up
to eleven, which of them its whole part is, which are the last two digits of
the whole part, and what fraction is visible.  Numbers of which all this is the
same belong to the same category under every rule.
-/

namespace Concord
namespace Operands

/-- Operands of which every question that a rule asks has the same answer. -/
structure SameAnswers (left right : Operands) : Prop where
  /-- Both values are the same small number, if either is one. -/
  isNat : ∀ n ≤ 10, left.value.isNat n = right.value.isNat n
  /-- Both values lie below the same small bounds. -/
  isBelow : ∀ n : Int, 0 ≤ n -> n ≤ 11 -> left.value.isBelow n = right.value.isBelow n
  /-- Both values lie above the same small bounds. -/
  isAbove : ∀ n : Int, -1 ≤ n -> n ≤ 10 -> left.value.isAbove n = right.value.isAbove n
  /-- Both sizes are zero or neither is. -/
  isZero : left.magnitude.isNat 0 = right.magnitude.isNat 0
  /-- Both sizes are one or neither is. -/
  isOne : left.magnitude.isNat 1 = right.magnitude.isNat 1
  /-- Both whole parts are the same small number, if either is one. -/
  whole : ∀ n ≤ 10, left.whole = n ↔ right.whole = n
  /-- The whole parts end in the same two digits. -/
  lastDigits : left.whole % 100 = right.whole % 100
  /-- They have the same number of visible places. -/
  places : left.places = right.places
  /-- They have the same visible fraction. -/
  fraction : left.fraction = right.fraction

namespace SameAnswers

variable {left right : Operands} (same : left.SameAnswers right)

include same

theorem lastDigit : left.whole % 10 = right.whole % 10 := by
  have lastDigits := same.lastDigits
  omega

/-- Whole parts lie in the same ranges of small numbers. -/
theorem between (low : Nat) {high : Nat} (small : high ≤ 10) :
    PluralRule.between low high left.whole = PluralRule.between low high right.whole := by
  have leftSmall := same.whole left.whole
  have rightSmall := same.whole right.whole
  rw [PluralRule.between, PluralRule.between, Bool.eq_iff_iff]
  simp only [Bool.and_eq_true, decide_eq_true_eq]
  omega

/-- A rule sorts by the answers to its questions. -/
theorem category (rule : PluralRule) : rule.category left = rule.category right := by
  -- After the rewriting both sides differ in nothing but how their tests are decided.
  cases rule <;>
    simp only [PluralRule.category, PluralRule.arabicCategory, PluralRule.czechCategory,
      PluralRule.danishCategory, PluralRule.eastSlavicCategory, PluralRule.hebrewCategory,
      PluralRule.irishCategory, PluralRule.latvianCategory, PluralRule.lithuanianCategory,
      PluralRule.malteseCategory, PluralRule.polishCategory, PluralRule.romanianCategory,
      PluralRule.slovenianCategory, PluralRule.southSlavicCategory, PluralRule.tagalogCategory,
      PluralRule.welshCategory, PluralRule.endsInOne, PluralRule.endsInFew, isInteger,
      hasNoPlaces, same.isNat, same.isBelow, same.isAbove, same.isZero, same.isOne, same.between,
      same.whole, same.lastDigits, same.lastDigit, same.places, same.fraction, ne_eq,
      Nat.reduceLeDiff, Int.reduceLE, Int.reduceNeg, Int.le_refl] <;>
    rfl

end SameAnswers
end Operands
end Concord
