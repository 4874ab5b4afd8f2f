import Concord.Agreement.Grammar
import Concord.Proofs.Locale.Subtags

/-!
# Scripts in locale names

The name of a locale may tell the script between the language and the region.
The second part of a name is read as the country all the same, so that such a
locale has the grammar of its language without regard to the region.  This is
the grammar of the region too, but for the few regions that differ from their
language: Taiwan and Hong Kong in the counter word, Portugal in the rule for
numbers.
-/

namespace Concord

namespace Locale

/-- The languages and countries of the keys of a table that name both. -/
def regionsOf {α : Type} (table : Table String α) : List (String × String) :=
  ((Table.keys table).filter fun key => '_' ∈ key.toList).map fun key =>
    (String.ofList (headPart key.toList), String.ofList (headPart (tailParts key.toList)))

/-- A table without an entry for a country holds for it what it holds for the language. -/
theorem select?_of_not_mem_regionsOf
    {α : Type}
    {table : Table String α}
    {language country : Subtag}
    (absent : (language.text, country.text) ∉ regionsOf table) :
    (Locale.mk language.text country.text).select? table = table.get? language.text := by
  apply select?_of_regionKey_not_mem
  intro present
  obtain ⟨languageIs, countryIs⟩ := parts_of_regionKey language rfl
  have marked := mark_mem_regionKey ⟨language.text, country.text⟩
  exact absent (List.mem_map.mpr ⟨_, List.mem_filter.mpr ⟨present, decide_eq_true marked⟩,
    (Prod.ext languageIs countryIs).symm⟩)

/-- Chinese is the one language whose counter word depends on the country. -/
theorem regionsOf_counterWords : regionsOf counterWords = [("zh", "TW"), ("zh", "HK")] := by
  decide +kernel

/-- Portuguese is the one language whose plural rule depends on the country. -/
theorem regionsOf_byLanguage : regionsOf PluralRule.byLanguage = [("pt", "PT")] := by
  decide +kernel

/-- No country is as long as the name of a script, which therefore has no entry. -/
theorem select?_of_script
    {α : Type}
    {table : Table String α}
    (short : ∀ region ∈ regionsOf table, region.2.length = 2)
    {script : Subtag}
    (fourLetters : script.letters.length = 4)
    (language : Subtag) :
    (Locale.mk language.text script.upper.text).select? table = table.get? language.text := by
  apply select?_of_not_mem_regionsOf
  intro present
  have long : script.upper.text.length = 4 := by
    rw [Subtag.text, String.length_ofList, Subtag.upper, List.length_map, fourLetters]
  have two : script.upper.text.length = 2 := short _ present
  omega

section

variable {script : Subtag} (fourLetters : script.letters.length = 4) (language country : Subtag)
include fourLetters

/-- A script makes a difference to the counter word in Taiwan and Hong Kong. -/
theorem counterWordOf_script_eq_iff :
    counterWordOf ⟨language.text, script.upper.text⟩ =
        counterWordOf ⟨language.text, country.text⟩ ↔
      ¬ (language.text = "zh" ∧ country.text ∈ ["TW", "HK"]) := by
  have ofScript : (Locale.mk language.text script.upper.text).select? counterWords =
      counterWords.get? language.text := by
    apply select?_of_script _ fourLetters
    rw [regionsOf_counterWords]
    decide
  constructor
  · rintro same ⟨chinese, special⟩
    rw [counterWordOf, counterWordOf, ofScript, chinese] at same
    rw [List.mem_pair] at special
    rcases special with taiwan | hongKong
    · rw [taiwan] at same
      exact absurd same (by decide +kernel)
    · rw [hongKong] at same
      exact absurd same (by decide +kernel)
  · intro general
    have absent : (language.text, country.text) ∉ regionsOf counterWords := by
      rwa [regionsOf_counterWords, List.mem_pair, Prod.mk.injEq, Prod.mk.injEq, ← and_or_left,
        ← List.mem_pair]
    rw [counterWordOf, counterWordOf, ofScript, select?_of_not_mem_regionsOf absent]

/-- A script makes a difference to the category of some value in Portugal. -/
theorem pluralCategory_script_eq_iff :
    (∀ value, pluralCategory (PluralRule.ofLocale? ⟨language.text, script.upper.text⟩) value =
        pluralCategory (PluralRule.ofLocale? ⟨language.text, country.text⟩) value) ↔
      ¬ (language.text = "pt" ∧ country.text = "PT") := by
  have ofScript : PluralRule.ofLocale? ⟨language.text, script.upper.text⟩ =
      PluralRule.byLanguage.get? language.text := by
    apply select?_of_script _ fourLetters
    rw [regionsOf_byLanguage]
    decide
  rw [ofScript]
  constructor
  · -- Zero is singular in Portuguese and not so in Portugal.
    rintro same ⟨portuguese, portugal⟩
    have zero := same (.integer 0)
    rw [portuguese, portugal] at zero
    exact absurd zero (by decide +kernel)
  · intro general value
    have absent : (language.text, country.text) ∉ regionsOf PluralRule.byLanguage := by
      rw [regionsOf_byLanguage]
      simpa using general
    rw [PluralRule.ofLocale?, select?_of_not_mem_regionsOf absent]

end

end Locale

namespace Grammar

open Concord.Locale

/-- The grammar of the locale that is named by subtags. -/
def ofSubtags (settings : Settings) (language : Subtag) (others : List (Separator × Subtag)) :
    Grammar :=
  ofLocale settings (some (.text (nameOf language others)))

section

variable (settings : Settings) (language : Subtag)
variable (separator : Separator) (next : Subtag) (rest : List (Separator × Subtag))

/-- A name with a separator is not empty, so that it is not left to the settings. -/
theorem effectiveLocale_nameOf :
    effectiveLocale settings (some (.text (nameOf language ((separator, next) :: rest)))) =
      .text (nameOf language ((separator, next) :: rest)) := by
  have nonempty :
      (LocaleName.text (nameOf language ((separator, next) :: rest))).spelling ≠ "" := by
    simp [LocaleName.spelling, nameOf, spell]
  exact effectiveLocale_of_ne_empty nonempty settings

/-- The family and the treatment of capitals are those of the first subtag. -/
theorem ofSubtags_eq :
    ofSubtags settings language ((separator, next) :: rest) =
      ofFamily (familyOf language.lower.text) (.text (nameOf language ((separator, next) :: rest)))
        settings.keepsCase (localCounterWord (familyOf language.lower.text)
          (.text (nameOf language ((separator, next) :: rest)))) := by
  have read : (Locale.named (.text (nameOf language ((separator, next) :: rest)))).language =
      language.lower.text := by
    rw [Locale.named, LocaleName.spelling, ofName_nameOf]
  rw [ofSubtags, ofLocale, effectiveLocale_nameOf, read]

/-- The counter word of a language that has one is that of the first two subtags. -/
theorem counterWord_ofSubtags :
    (ofSubtags settings language ((separator, next) :: rest)).counterWord =
      if familyOf language.lower.text = .plain ∨
          (familyOf language.lower.text).countsByLocale = true then
        counterWordOf ⟨language.lower.text, next.upper.text⟩
      else "" := by
  have read : Locale.named (.text (nameOf language ((separator, next) :: rest))) =
      ⟨language.lower.text, next.upper.text⟩ := ofName_nameOf language rest separator next
  rw [ofSubtags_eq, ofFamily, localCounterWord_eq, read]
  split <;> rfl

theorem categoryOf_ofSubtags (value : Value) :
    (ofSubtags settings language ((separator, next) :: rest)).categoryOf value =
      pluralCategory (PluralRule.ofLocale? ⟨language.lower.text, next.upper.text⟩) value := by
  rw [ofSubtags_eq, categoryOf, pluralRule, ofFamily, Locale.named, LocaleName.spelling,
    ofName_nameOf]

end

/--
A script in the name of a locale leaves the family and the treatment of capitals
as they are without it.  The counter word is the same too, but for Taiwan and
Hong Kong; and so is the category of each value, but for Portugal.
-/
theorem script_matters_iff
    {language otherLanguage script region otherRegion : Subtag}
    (fourLetters : script.letters.length = 4)
    (sameLanguage : language.lower = otherLanguage.lower)
    (sameRegion : region.upper = otherRegion.upper)
    (settings : Settings)
    (first second separator : Separator) :
    let scripted := ofSubtags settings language [(first, script), (second, region)]
    let plain := ofSubtags settings otherLanguage [(separator, otherRegion)]
    scripted.family = plain.family ∧
    scripted.keepsCase = plain.keepsCase ∧
    (scripted.counterWord = plain.counterWord ↔
      ¬ (language.lower.text = "zh" ∧ region.upper.text ∈ ["TW", "HK"])) ∧
    ((∀ value, scripted.categoryOf value = plain.categoryOf value) ↔
      ¬ (language.lower.text = "pt" ∧ region.upper.text = "PT")) := by
  intro scripted plain
  refine ⟨?_, ?_, ?_, ?_⟩
  · simp only [scripted, plain, ofSubtags_eq, ofFamily, sameLanguage]
  · simp only [scripted, plain, ofSubtags_eq, ofFamily, sameLanguage]
  · have sameWord := Locale.counterWordOf_script_eq_iff fourLetters language.lower region.upper
    rw [counterWord_ofSubtags, counterWord_ofSubtags, ← sameLanguage, ← sameRegion]
    by_cases counts : familyOf language.lower.text = .plain ∨
        (familyOf language.lower.text).countsByLocale = true
    case pos => rw [if_pos counts, if_pos counts, sameWord]
    case neg =>
      rw [if_neg counts, if_neg counts]
      refine iff_of_true rfl ?_
      rintro ⟨chinese, -⟩
      rw [chinese] at counts
      exact counts (.inr rfl)
  · have sameCategory :=
      Locale.pluralCategory_script_eq_iff fourLetters language.lower region.upper
    simp only [scripted, plain, categoryOf_ofSubtags, ← sameLanguage, ← sameRegion]
    exact sameCategory

/-- Serbian in the Latin script counts and sorts numbers as Serbian does. -/
theorem script_matters_iff_serbian :
    (ofLocale {} (some (.text "sr-Latn-RS"))).counterWord =
        (ofLocale {} (some (.text "SR_rs"))).counterWord ∧
      (ofLocale {} (some (.text "sr-Latn-RS"))).categoryOf (.text "2.1") =
        (ofLocale {} (some (.text "SR_rs"))).categoryOf (.text "2.1") := by
  let serbian : Subtag := ⟨['s', 'r'], by decide⟩
  let shouted : Subtag := ⟨['S', 'R'], by decide⟩
  let latin : Subtag := ⟨['L', 'a', 't', 'n'], by decide⟩
  let serbia : Subtag := ⟨['R', 'S'], by decide⟩
  let whispered : Subtag := ⟨['r', 's'], by decide⟩
  have scripted : nameOf serbian [(.hyphen, latin), (.hyphen, serbia)] = "sr-Latn-RS" := rfl
  have plain : nameOf shouted [(.underscore, whispered)] = "SR_rs" := rfl
  have sameLanguage : serbian.lower = shouted.lower := Subtag.ext (by decide +kernel)
  have sameRegion : serbia.upper = whispered.upper := Subtag.ext (by decide +kernel)
  have fourLetters : latin.letters.length = 4 := rfl
  obtain ⟨-, -, sameWord, sameCategory⟩ := script_matters_iff fourLetters sameLanguage sameRegion {}
    .hyphen .hyphen .underscore
  rw [ofSubtags, ofSubtags, scripted, plain] at sameWord sameCategory
  exact ⟨sameWord.mpr (by decide +kernel), sameCategory.mpr (by decide +kernel) (.text "2.1")⟩

/-- With a script in the name, Taiwan counts like mainland China and Portugal like Brazil. -/
theorem script_hides_region :
    (ofLocale {} (some (.text "zh-Hant-TW"))).counterWord = "个" ∧
      (ofLocale {} (some (.text "zh_TW"))).counterWord = "個" ∧
      (ofLocale {} (some (.text "pt-Latn-PT"))).categoryOf (.integer 0) = .ok .one ∧
      (ofLocale {} (some (.text "pt_PT"))).categoryOf (.integer 0) = .ok .other := by
  decide +kernel

end Grammar
end Concord
