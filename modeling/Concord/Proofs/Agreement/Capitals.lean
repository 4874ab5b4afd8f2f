import Concord.Agreement.Grammar

/-!
# The setting for capitals

The settings may say for all languages whether words keep their capitals inside
a sentence.  Adjectives and articles follow such a setting in every locale.
Nouns do so in every language but German, where they keep their capitals even
if the setting says that they do not.
-/

namespace Concord

/-- There is a word that is not in lowercase. -/
theorem Text.lowercase_ne : lowercase "A" ≠ "A" := by
  decide

/-- German is the only family whose nouns keep their capitals by themselves. -/
theorem AgreementFamily.capitalizesNouns_iff (family : AgreementFamily) :
    family.capitalizesNouns = true ↔ family = .german := by
  cases family <;> decide

namespace Grammar

/-- German is the language in which nouns keep their capitals by themselves. -/
theorem capitalizesNouns_familyOf_iff (language : String) :
    (familyOf language).capitalizesNouns = true ↔ language = "de" := by
  constructor
  · intro capitalizes
    cases found : familyByLanguage.get? language with
    | none =>
        rw [familyOf, found] at capitalizes
        cases capitalizes
    | some family =>
        have only : ∀ entry ∈ familyByLanguage, entry.2.capitalizesNouns = true ->
            entry.1 = "de" := by decide
        rw [familyOf, found] at capitalizes
        exact only _ (Table.mem_of_get? found) capitalizes
  · rintro rfl
    rfl

section

variable {grammar : Grammar}

/-- A noun keeps its capitals where its family or the grammar says so. -/
theorem insideNoun_eq_self
    (kept : grammar.family.capitalizesNouns = true ∨ grammar.keepsCase = true)
    (word : String) :
    grammar.insideNoun word = word :=
  if_pos ((Bool.or_eq_true _ _).mpr kept)

theorem insideModifier_eq_self
    (kept : grammar.keepsCase = true)
    (word : String) :
    grammar.insideModifier word = word :=
  if_pos kept

/-- If that word is kept as a noun, so is every other. -/
theorem kept_of_insideNoun
    (letter : grammar.insideNoun "A" = "A") :
    grammar.family.capitalizesNouns = true ∨ grammar.keepsCase = true := by
  rw [← Bool.or_eq_true]
  refine Decidable.byContradiction fun lowered => ?_
  rw [insideNoun, if_neg lowered] at letter
  exact Text.lowercase_ne letter

/-- If that word is kept as a modifier, so is every other. -/
theorem kept_of_insideModifier
    (letter : grammar.insideModifier "A" = "A") :
    grammar.keepsCase = true := by
  refine Decidable.byContradiction fun lowered => ?_
  rw [insideModifier, if_neg lowered] at letter
  exact Text.lowercase_ne letter

end

theorem family_ofLocale (settings : Settings) (name : Option LocaleName) :
    (ofLocale settings name).family =
      familyOf (Locale.named (effectiveLocale settings name)).language := by
  rw [ofLocale, ofFamily]

/-- A treatment of capitals that the settings name overrides that of every language. -/
theorem keepsCase_ofLocale
    {settings : Settings}
    {keeps : Bool}
    (given : settings.keepsCase = some keeps)
    (name : Option LocaleName) :
    (ofLocale settings name).keepsCase = keeps := by
  rw [ofLocale, ofFamily, given, Option.getD_some]

/--
Where the settings say whether capitals are kept, adjectives and articles follow
them in every locale.  All nouns do so too, unless the language is German and
the settings say that capitals are not kept.
-/
theorem capitals_follow_setting_iff
    {settings : Settings}
    {keeps : Bool}
    (given : settings.keepsCase = some keeps)
    (name : Option LocaleName) :
    (∀ word, (ofLocale settings name).insideModifier word =
      if keeps then word else Text.lowercase word) ∧
    ((∀ word, (ofLocale settings name).insideNoun word =
        if keeps then word else Text.lowercase word) ↔
      ¬ ((Locale.named (effectiveLocale settings name)).language = "de" ∧ keeps = false)) := by
  have keepsCase := keepsCase_ofLocale given name
  have german := capitalizesNouns_familyOf_iff
    (Locale.named (effectiveLocale settings name)).language
  rw [← family_ofLocale] at german
  refine ⟨?_, ?_, ?_⟩
  · intro word
    rw [insideModifier, keepsCase]
  · rintro follows ⟨isGerman, rfl⟩
    have kept := insideNoun_eq_self (.inl (german.mpr isGerman)) "A"
    rw [follows, if_neg Bool.false_ne_true] at kept
    exact Text.lowercase_ne kept
  · intro otherwise word
    rw [insideNoun, keepsCase]
    cases keeps with
    | true => rw [Bool.or_true]
    | false =>
        have notGerman : (ofLocale settings name).family.capitalizesNouns = false := by
          rw [← Bool.not_eq_true, german]
          exact fun isGerman => otherwise ⟨isGerman, rfl⟩
        rw [notGerman, Bool.or_false]

/-- In Turkish a noun loses its capital under the setting that says so. -/
theorem capitals_follow_setting_iff_turkish :
    (ofLocale { keepsCase := some false } (some (.text "tr-TR"))).insideNoun "Ev" = "ev" := by
  have given : ({ keepsCase := some false } : Settings).keepsCase = some false := rfl
  obtain ⟨-, nouns⟩ := capitals_follow_setting_iff given (some (.text "tr-TR"))
  rw [nouns.mpr (by decide +kernel)]
  decide +kernel

/-- In German a noun keeps its capital although the setting says that none does. -/
theorem insideNoun_german :
    (ofLocale { keepsCase := some false } (some (.text "de"))).insideNoun "Haus" = "Haus" ∧
      Text.lowercase "Haus" = "haus" := by
  decide +kernel

end Grammar
end Concord
