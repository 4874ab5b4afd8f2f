import Concord.Locale
import Concord.Plural.Rule

/-!
# Plural rules by language

A language without a rule of its own puts every number into one category.  A
value that is not a finite number belongs to that category in every language.
-/

namespace Concord

namespace PluralRule

/-- The rule of each language, and of each country that differs from its language. -/
def byLanguage : Table String PluralRule := [
    ("af", .unit), ("am", .zeroToOne), ("ar", .arabic), ("bg", .unit), ("bn", .zeroToOne),
    ("bs", .southSlavic), ("ca", .plainOne), ("cs", .czech), ("cy", .welsh), ("da", .danish),
    ("de", .plainOne), ("el", .unit), ("en", .plainUnit), ("eo", .unit), ("es", .unit),
    ("et", .plainOne), ("eu", .unit), ("fa", .zeroToOne), ("fi", .plainOne), ("fr", .french),
    ("ga", .irish), ("gu", .zeroToOne), ("haw", .plainOne), ("he", .hebrew), ("hi", .zeroToOne),
    ("hr", .southSlavic), ("hu", .unit), ("hy", .zeroBelowTwo), ("is", .icelandic),
    ("it", .plainOne), ("iw", .hebrew), ("ji", .unit), ("ka", .unit), ("kk", .unit),
    ("kl", .plainOne), ("kn", .zeroToOne), ("lb", .unit), ("lt", .lithuanian), ("lv", .latvian),
    ("mk", .macedonian), ("ml", .unit), ("mo", .romanian), ("mr", .unit), ("mt", .maltese),
    ("nl", .plainOne), ("no", .unit), ("pa", .zeroOrUnit), ("pl", .polish),
    ("pnb", .zeroOrUnit), ("pt", .zeroBelowTwo), ("pt_PT", .plainOne), ("rm", .unit),
    ("ro", .romanian), ("ru", .eastSlavic), ("sh", .southSlavic), ("sk", .czech),
    ("sl", .slovenian), ("sq", .unit), ("sr", .southSlavic), ("sv", .plainOne),
    ("sw", .plainOne), ("ta", .unit), ("te", .unit), ("tl", .tagalog), ("tr", .unit),
    ("uk", .eastSlavic), ("ur", .plainOne), ("xh", .unit), ("yi", .unit), ("zu", .zeroToOne)
  ]

/-- The rule of a locale. -/
def ofLocale? (locale : Locale) : Option PluralRule :=
  locale.select? byLanguage

/-- A language of which no country has a rule of its own has one rule. -/
theorem ofLocale?_of_no_countries
    {locale : Locale}
    {language : String}
    (same : locale.language = language)
    (noCountries : ∀ key ∈ Table.keys byLanguage, ¬ (language ++ "_").toList <+: key.toList) :
    ofLocale? locale = Table.get? byLanguage language := by
  subst same
  exact Locale.select?_of_no_countries noCountries

end PluralRule

/-- The category of a value under a rule that may be missing. -/
def pluralCategory (rule : Option PluralRule) (value : Value) :
    Except NumberError PluralCategory := do
  match ← value.operands with
  | none => return .other
  | some operands =>
      match rule with
      | none => return .other
      | some rule => return rule.category operands

/-- A value that is taken apart belongs to the category of its operands. -/
theorem pluralCategory_of_operands
    {value : Value}
    {operands : Operands}
    (taken : value.operands = .ok (some operands))
    (rule : PluralRule) :
    pluralCategory (some rule) value = .ok (rule.category operands) := by
  rw [pluralCategory, taken]
  rfl

/-- Only a rule puts a value into a category other than that of all that has none. -/
theorem exists_rule_of_pluralCategory
    {rule : Option PluralRule}
    {value : Value}
    {category : PluralCategory}
    (sorted : pluralCategory rule value = .ok category)
    (special : category ≠ .other) :
    ∃ found op, rule = some found ∧ found.category op = category := by
  unfold pluralCategory at sorted
  cases taken : value.operands with
  | error error =>
      rw [taken] at sorted
      cases sorted
  | ok apart =>
      rw [taken] at sorted
      cases apart with
      | none => exact absurd (Except.ok.inj sorted).symm special
      | some op =>
          cases rule with
          | none => exact absurd (Except.ok.inj sorted).symm special
          | some found => exact ⟨found, op, rfl, Except.ok.inj sorted⟩

end Concord
