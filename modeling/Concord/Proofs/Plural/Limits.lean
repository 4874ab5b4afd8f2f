import Concord.Plural.Language
import Concord.Proofs.Number.Rounding

/-!
# The limits of classification

A number is taken apart exactly if it shows no more than the limit of digits
before the point and behind it.  The bound on exponents never shows on its
own: rounding moves the leading digit by two places at most, so a number that
is too large to be rounded has far too many digits as well.
-/

namespace Concord

namespace Operands

/-- A decimal that shows no more digits than the limit, on either side of the point. -/
def IsShort (d : Decimal) : Prop :=
  wholeDigits d ≤ digitLimit ∧ visiblePlaces d ≤ digitLimit

/-- A decimal is taken apart exactly if it is short. -/
theorem ofDecimal_ok_iff (d : Decimal) :
    (∃ operands, ofDecimal d = .ok operands) ↔ IsShort d := by
  constructor
  · rintro ⟨operands, taken⟩
    unfold ofDecimal at taken
    cases sized : d.magnitude with
    | error error =>
        rw [sized] at taken
        cases taken
    | ok magnitude =>
        rw [sized] at taken
        by_cases wholeShort : wholeDigits d ≤ digitLimit
        · by_cases placesShort : visiblePlaces d ≤ digitLimit
          · exact ⟨wholeShort, placesShort⟩
          · rw [checkDigitCount_of_le wholeShort,
              checkDigitCount_of_lt (Nat.lt_of_not_le placesShort)] at taken
            cases taken
        · rw [checkDigitCount_of_lt (Nat.lt_of_not_le wholeShort)] at taken
          cases taken
  · rintro ⟨wholeShort, placesShort⟩
    have small : d.coefficient ≠ 0 -> d.adjusted + 2 ≤ Decimal.largestExponent := by
      intro nonzero
      rw [wholeDigits, if_neg nonzero, digitLimit] at wholeShort
      rw [Decimal.largestExponent]
      omega
    obtain ⟨magnitude, sized⟩ := Decimal.magnitude_of_adjusted_lt small
    unfold ofDecimal
    rw [sized, checkDigitCount_of_le wholeShort, checkDigitCount_of_le placesShort]
    exact ⟨_, rfl⟩

end Operands

namespace Value

/-- A value that stands for a number with too many digits to be classified. -/
def IsOverlong (value : Value) : Prop :=
  value.isUnwritableInteger = true ∨ ∃ d, value.decimal? = some d ∧ ¬ Operands.IsShort d

theorem operands_ok_iff (value : Value) :
    (∃ operands, value.operands = .ok operands) ↔ ¬ value.IsOverlong := by
  unfold operands IsOverlong
  by_cases unwritable : value.isUnwritableInteger = true
  · simp [unwritable]
  · rw [if_neg unwritable]
    cases stands : value.decimal? with
    | none => simp [unwritable]
    | some d =>
        have taken := Operands.ofDecimal_ok_iff d
        cases apart : Operands.ofDecimal d with
        | error error => simp_all [Except.map]
        | ok operands => simp_all [Except.map]

end Value

/-- A value has a category, under whichever rule, unless it is overlong. -/
theorem pluralCategory_ok_iff (rule : Option PluralRule) (value : Value) :
    (∃ category, pluralCategory rule value = .ok category) ↔ ¬ value.IsOverlong := by
  rw [← value.operands_ok_iff]
  unfold pluralCategory
  cases value.operands with
  | error error => simp [bind, Except.bind]
  | ok operands =>
      cases operands with
      | none => exact ⟨fun _ => ⟨none, rfl⟩, fun _ => ⟨.other, rfl⟩⟩
      | some operands =>
          cases rule with
          | none => exact ⟨fun _ => ⟨some operands, rfl⟩, fun _ => ⟨.other, rfl⟩⟩
          | some rule => exact ⟨fun _ => ⟨some operands, rfl⟩, fun _ => ⟨_, rfl⟩⟩

end Concord
