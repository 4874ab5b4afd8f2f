import Concord.Plural.Language
import Concord.Proofs.Number.Size

/-!
# Zero

Zero is a number and also the name of a category.  A value equals zero whatever
its sign and its digits are, if it is a number at all.  The category is used by
the rules of Arabic, Welsh and Latvian only, where other values than zero may
belong to it; in all other languages nothing does.
-/

namespace Concord

/-- The number that a value is; truth values and texts are none, whatever they are read as. -/
def Value.rational? : Value -> Option ℚ
  | .integer n => some n
  | .float (.finite negative significand exponent) =>
      some ((if negative then -1 else 1) * (significand * 2 ^ exponent))
  | .decimal (.finite d) => some d.toRat
  | _ => none

/-- A decimal is zero exactly if its coefficient is. -/
theorem Decimal.toRat_eq_zero_iff (d : Decimal) : d.toRat = 0 ↔ d.coefficient = 0 := by
  rw [← abs_eq_zero, abs_toRat, size_eq_zero_iff]

/-- A value passes for a zero exactly if it is the number zero. -/
theorem Value.isNumericZero_iff (value : Value) :
    value.isNumericZero = .ok true ↔ value.rational? = some 0 := by
  cases value with
  | integer n => simp [isNumericZero, rational?]
  | float binary =>
      cases binary with
      | finite negative significand exponent =>
          have power : (2 : ℚ) ^ exponent ≠ 0 := zpow_ne_zero exponent two_ne_zero
          have signed : (if negative then -1 else 1 : ℚ) ≠ 0 := by cases negative <;> norm_num
          rw [isNumericZero, rational?, Option.some.injEq, mul_eq_zero, or_iff_right signed,
            mul_eq_zero, or_iff_left power, Nat.cast_eq_zero, Except.ok.injEq, decide_eq_true_eq]
      | undefined | infinite negative => simp [isNumericZero, rational?]
  | decimal extended =>
      cases extended with
      | finite d =>
          rw [isNumericZero, rational?, Option.some.injEq, d.toRat_eq_zero_iff, Except.ok.injEq,
            decide_eq_true_eq]
      | undefined negative signaling payload =>
          cases signaling <;> simp [isNumericZero, rational?]
      | infinite negative => simp [isNumericZero, rational?]
  | _ => simp [isNumericZero, rational?]

namespace PluralRule

/-- The rules that sort some numbers into the category zero. -/
def withZero : List PluralRule := [.arabic, .latvian, .welsh]

/-- The languages that sort some numbers into the category zero. -/
def languagesWithZero : List String := ["ar", "cy", "lv"]

theorem ite_ne_zero
    {test : Prop} [Decidable test]
    {passed failed : PluralCategory}
    (passedElsewhere : passed ≠ .zero)
    (failedElsewhere : failed ≠ .zero) :
    (if test then passed else failed) ≠ .zero := by
  split
  · exact passedElsewhere
  · exact failedElsewhere

/-- A rule without the category zero sorts no number into it. -/
theorem category_ne_zero
    {rule : PluralRule}
    (without : rule ∉ withZero)
    (op : Operands) :
    rule.category op ≠ .zero := by
  cases rule with
  | arabic | latvian | welsh => simp [withZero] at without
  | _ =>
      -- What is left is a chain of tests, with a category other than zero at each end.
      simp only [category, oneWhen, czechCategory, danishCategory, eastSlavicCategory,
        hebrewCategory, irishCategory, lithuanianCategory, malteseCategory, polishCategory,
        romanianCategory, slovenianCategory, southSlavicCategory, tagalogCategory]
      repeat' apply ite_ne_zero
      all_goals decide

/-- The rules with the category zero are found for three languages only, in whatever country. -/
theorem mem_languagesWithZero_of_ofLocale?
    {locale : Locale}
    {rule : PluralRule}
    (found : ofLocale? locale = some rule)
    (zero : rule ∈ withZero) :
    locale.language ∈ languagesWithZero := by
  have languages : ∀ entry ∈ byLanguage, entry.2 ∈ withZero ->
      entry.1 ∈ languagesWithZero := by decide +kernel
  have unmarked : ∀ language ∈ languagesWithZero, '_' ∉ language.toList := by decide +kernel
  rcases Locale.mem_of_select? found with special | general
  · exact absurd locale.mark_mem_regionKey (unmarked _ (languages _ special zero))
  · exact languages _ general zero

/-- In a language with a category for zero the country does not matter. -/
theorem ofLocale?_of_languagesWithZero
    {locale : Locale}
    (zero : locale.language ∈ languagesWithZero) :
    ofLocale? locale = Table.get? byLanguage locale.language := by
  have noCountries : ∀ language ∈ languagesWithZero, ∀ key ∈ Table.keys byLanguage,
      ¬ (language ++ "_").toList <+: key.toList := by decide +kernel
  exact ofLocale?_of_no_countries rfl (noCountries _ zero)

end PluralRule

/-- In a language without the category zero no value belongs to it. -/
theorem pluralCategory_ne_zero
    {locale : Locale}
    (without : locale.language ∉ PluralRule.languagesWithZero)
    (value : Value) :
    pluralCategory (PluralRule.ofLocale? locale) value ≠ .ok .zero := by
  intro sorted
  obtain ⟨rule, op, found, zero⟩ := exists_rule_of_pluralCategory sorted (by decide)
  have withoutZero : rule ∉ PluralRule.withZero := fun withZero =>
    without (PluralRule.mem_languagesWithZero_of_ofLocale? found withZero)
  exact PluralRule.category_ne_zero withoutZero op zero

/-- In a language with the category zero the text of the digit belongs to it. -/
theorem pluralCategory_zero_text
    {locale : Locale}
    (zero : locale.language ∈ PluralRule.languagesWithZero) :
    pluralCategory (PluralRule.ofLocale? locale) (.text "0") = .ok .zero := by
  have sorted : ∀ language ∈ PluralRule.languagesWithZero,
      pluralCategory (Table.get? PluralRule.byLanguage language) (.text "0") = .ok .zero := by
    decide +kernel
  rw [PluralRule.ofLocale?_of_languagesWithZero zero]
  exact sorted _ zero

end Concord
