import Concord.Proofs.Agreement.Capitals
import Concord.Proofs.Rendering.Congruence
import Concord.Rendering.Localizer

/-!
# The tables behind a grammar

The family of a language, its counter word, its rule for numbers and whether it
is written without letter case are kept in tables of their own.  The grammar of
a locale agrees with all of them, although only some families look up a counter
word and the treatment of capitals is left to the family.  Names that are read
as one locale therefore have grammars that act alike, and no label tells them
apart.
-/

namespace Concord

namespace Grammar

/-- A language stands in the table with its family, or else it is plain. -/
theorem familyOf_cases (language : String) :
    (language, familyOf language) ∈ familyByLanguage ∨
      language ∉ Table.keys familyByLanguage ∧ familyOf language = .plain := by
  rw [← Table.isSome_get?_iff, familyOf]
  cases found : familyByLanguage.get? language with
  | none => exact .inr ⟨Bool.false_ne_true, rfl⟩
  | some family => exact .inl (Table.mem_of_get? found)

/-- The families that lack letter case are those of the languages written without it. -/
theorem lacksCase_familyOf (language : String) :
    (familyOf language).lacksCase = decide (language ∈ uncasedLanguages) := by
  rcases familyOf_cases language with listed | ⟨unlisted, plain⟩
  case inl =>
    have agree : ∀ entry ∈ familyByLanguage,
        entry.2.lacksCase = decide (entry.1 ∈ uncasedLanguages) := by decide
    exact agree _ listed
  case inr =>
    have allListed : ∀ uncased ∈ uncasedLanguages, uncased ∈ Table.keys familyByLanguage := by
      decide
    have cased : language ∉ uncasedLanguages := mt (allListed language) unlisted
    rw [plain, decide_eq_false cased]
    rfl

/-- A language that looks up no counter word has none, in any country. -/
theorem counterWordOf_of_not_countsByLocale
    {locale : Locale}
    (listed : (locale.language, familyOf locale.language) ∈ familyByLanguage)
    (looksUpNone : (familyOf locale.language).countsByLocale = false) :
    counterWordOf locale = "" := by
  have noEntries : ∀ entry ∈ familyByLanguage, entry.2.countsByLocale = false ->
      entry.1 ∉ Table.keys counterWords ∧
        ∀ key ∈ Table.keys counterWords, ¬ (entry.1 ++ "_").toList <+: key.toList := by
    decide +kernel
  obtain ⟨noLanguage, noCountries⟩ := noEntries _ listed looksUpNone
  rw [counterWordOf, Locale.select?_of_no_countries noCountries, Table.get?_eq_none noLanguage,
    Option.getD_none]

/-- The counter word that goes with a locale is the word in the table. -/
theorem localCounterWord_familyOf (name : LocaleName) :
    (localCounterWord (familyOf (Locale.named name).language) name).getD "" =
      counterWordOf (Locale.named name) := by
  rw [localCounterWord_eq]
  split
  case isTrue => rw [Option.getD_some]
  case isFalse neither =>
    obtain ⟨notPlain, looksUpNone⟩ := not_or.mp neither
    rcases familyOf_cases (Locale.named name).language with listed | ⟨-, plain⟩
    · rw [Option.getD_none,
        counterWordOf_of_not_countsByLocale listed (Bool.eq_false_iff.mpr looksUpNone)]
    · exact absurd plain notPlain

/-- Two grammars that treat words and values alike; the names of their locales may differ. -/
structure ActsAlike (grammar other : Grammar) : Prop where
  /-- Their modifiers agree in the same way. -/
  family : other.family = grammar.family
  /-- They treat capitals alike. -/
  keepsCase : other.keepsCase = grammar.keepsCase
  /-- They have the same counter word. -/
  counterWord : other.counterWord = grammar.counterWord
  /-- They sort every value into the same category. -/
  category : ∀ value, other.categoryOf value = grammar.categoryOf value

section

variable {grammar other : Grammar} (alike : grammar.ActsAlike other)
include alike

/-- Grammars that act alike write nouns alike inside a sentence. -/
theorem ActsAlike.insideNoun (word : String) :
    other.insideNoun word = grammar.insideNoun word := by
  rw [Grammar.insideNoun, Grammar.insideNoun, alike.family, alike.keepsCase]

theorem ActsAlike.insideModifier (word : String) :
    other.insideModifier word = grammar.insideModifier word := by
  rw [Grammar.insideModifier, Grammar.insideModifier, alike.keepsCase]

end

end Grammar

namespace Context

/-- The same surroundings under another grammar. -/
def withGrammar (context : Context) (grammar : Grammar) : Context :=
  { context with grammar := grammar }

section

variable {context : Context} {other : Grammar} (alike : context.grammar.ActsAlike other)
include alike

theorem nounWord_withGrammar (ref : NounTerm) (noun : Option Lexeme) :
    (context.withGrammar other).nounWord ref noun = context.nounWord ref noun := by
  have sameInside (word : String) :
      (context.withGrammar other).grammar.insideNoun word = context.grammar.insideNoun word :=
    alike.insideNoun word
  rw [nounWord, nounWord]
  simp only [sameInside]

theorem modifierWord_withGrammar (ref : ModifierTerm) (answer : Option String) :
    (context.withGrammar other).modifierWord ref answer = context.modifierWord ref answer := by
  have sameInside (word : String) :
      (context.withGrammar other).grammar.insideModifier word =
        context.grammar.insideModifier word :=
    alike.insideModifier word
  have sameModifier : (context.withGrammar other).modifierOf ref = context.modifierOf ref := rfl
  rw [modifierWord, modifierWord, sameModifier]
  simp only [sameInside]

/-- A modifier makes the same request under both grammars. -/
theorem requestFor_withGrammar
    (neighbours : Neighbours)
    (ref : ModifierTerm)
    (target : Segment) :
    (context.withGrammar other).requestFor neighbours ref target =
      context.requestFor neighbours ref target := by
  have sameFamily : (context.withGrammar other).grammar.family = context.grammar.family :=
    alike.family
  rw [requestFor, requestFor, sameFamily]
  rfl

theorem counterWord_withGrammar (noun : Option Lexeme) :
    (context.withGrammar other).counterWord noun = context.counterWord noun := by
  have sameCounter :
      (context.withGrammar other).grammar.counterWord = context.grammar.counterWord :=
    alike.counterWord
  rw [counterWord, counterWord, sameCounter]

/-- An argument chooses the same variant under both grammars. -/
theorem pluralKey_withGrammar (argument : Option Int) (hasZero : Bool) :
    (context.withGrammar other).pluralKey argument hasZero =
      context.pluralKey argument hasZero := by
  have sameCategory (value : Value) :
      (context.withGrammar other).grammar.categoryOf value = context.grammar.categoryOf value :=
    alike.category value
  rw [pluralKey, pluralKey]
  simp only [sameCategory]
  rfl

/-- Under a grammar that acts alike, the same phrases are chosen. -/
theorem chosenPhrase_withGrammar (neighbours : Neighbours) (term : Term) :
    (context.withGrammar other).chosenPhrase neighbours term =
      context.chosenPhrase neighbours term := by
  cases term with
  | plural argument fallback variants =>
      rw [chosenPhrase, chosenPhrase, phraseKey, phraseKey, pluralKey_withGrammar alike]
  | noun ref | modifier ref | gender target fallback variants | counter target | bare kind => rfl

/-- Under a grammar that acts alike, the same words are written. -/
theorem wordText_withGrammar (neighbours : Neighbours) (term : Term) :
    (context.withGrammar other).wordText neighbours term = context.wordText neighbours term := by
  cases term with
  | noun ref =>
      have sameWord := funext (nounWord_withGrammar alike ref)
      rw [wordText, wordText, nounText, nounText, sameWord]
      rfl
  | modifier ref =>
      rw [wordText, wordText, modifierText, modifierText]
      simp only [requestFor_withGrammar alike, modifierWord_withGrammar alike]
  | counter target =>
      have sameWord := funext (counterWord_withGrammar alike)
      rw [wordText, wordText, counterText, counterText, sameWord]
      rfl
  | gender target fallback variants | plural argument fallback variants | bare kind => rfl

/-- A body has the same text under grammars that act alike. -/
theorem bodyText_withGrammar (body : Body) :
    (context.withGrammar other).bodyText body = context.bodyText body := by
  refine (bodyText_congr ?_ ?_).symm
  · intro content term _
    exact chosenPhrase_withGrammar alike (Segment.among content) term
  · intro content term _
    exact wordText_withGrammar alike (Segment.among content) term

end

end Context

/-- Grammars that act alike render every label alike. -/
theorem Localizer.text_of_actsAlike
    {grammar other : Grammar}
    (alike : grammar.ActsAlike other)
    (catalog : Catalog)
    (missing : String)
    (id nouns arguments : Value) :
    (Localizer.mk catalog other missing).text id nouns arguments =
      (Localizer.mk catalog grammar missing).text id nouns arguments := by
  have sameUnfilled : (Localizer.mk catalog other missing).unfilledText id nouns arguments =
      (Localizer.mk catalog grammar missing).unfilledText id nouns arguments := by
    refine unfilledText_congr ?_ ?_ ?_
    · rfl
    · rfl
    intro body _
    exact @Context.bodyText_withGrammar ⟨catalog, grammar, nouns, arguments⟩ other alike body
  rw [text, text, sameUnfilled]

namespace Grammar

section

variable {settings : Settings} {name other : LocaleName}
variable (nonempty : name.spelling ≠ "")
include nonempty

/-- The grammar of a name that is not empty is that of its language. -/
theorem ofLocale_of_ne_empty :
    ofLocale settings (some name) =
      ofFamily (familyOf (Locale.named name).language) name settings.keepsCase
        (localCounterWord (familyOf (Locale.named name).language) name) := by
  rw [ofLocale, effectiveLocale_of_ne_empty nonempty]

theorem counterWord_ofLocale :
    (ofLocale settings (some name)).counterWord = counterWordOf (Locale.named name) := by
  rw [ofLocale_of_ne_empty nonempty, ofFamily, localCounterWord_familyOf]

theorem categoryOf_ofLocale (value : Value) :
    (ofLocale settings (some name)).categoryOf value =
      pluralCategory (PluralRule.ofLocale? (Locale.named name)) value := by
  rw [ofLocale_of_ne_empty nonempty, categoryOf, pluralRule, ofFamily]

/-- Unless the settings say otherwise, capitals are kept in languages without letter case. -/
theorem keepsCase_ofLocale_eq :
    (ofLocale settings (some name)).keepsCase =
      settings.keepsCase.getD (decide ((Locale.named name).language ∈ uncasedLanguages)) := by
  rw [ofLocale_of_ne_empty nonempty, ofFamily, lacksCase_familyOf]

/-- Names that are read as one locale have grammars that act alike. -/
theorem actsAlike_ofLocale
    (otherNonempty : other.spelling ≠ "")
    (sameLocale : Locale.named other = Locale.named name) :
    (ofLocale settings (some name)).ActsAlike (ofLocale settings (some other)) where
  family := by
    rw [ofLocale_of_ne_empty nonempty, ofLocale_of_ne_empty otherNonempty, sameLocale, ofFamily,
      ofFamily]
  keepsCase := by
    rw [keepsCase_ofLocale_eq nonempty, keepsCase_ofLocale_eq otherNonempty, sameLocale]
  counterWord := by
    rw [counterWord_ofLocale nonempty, counterWord_ofLocale otherNonempty, sameLocale]
  category := by
    intro value
    rw [categoryOf_ofLocale nonempty, categoryOf_ofLocale otherNonempty, sameLocale]

end

/--
The grammar of a named locale has the counter word and the plural categories of
the tables, and keeps capitals as the settings say or else where the language is
written without letter case.  All names that are read as one locale have the
same family, counter word, treatment of capitals and plural categories, and
render every label alike.
-/
theorem ofLocale_agrees_with_tables
    {name : LocaleName}
    (nonempty : name.spelling ≠ "")
    (settings : Settings) :
    let locale := Locale.named name
    let grammar := ofLocale settings (some name)
    grammar.counterWord = counterWordOf locale ∧
    (∀ value, grammar.categoryOf value =
      pluralCategory (PluralRule.ofLocale? locale) value) ∧
    grammar.keepsCase = settings.keepsCase.getD (decide (locale.language ∈ uncasedLanguages)) ∧
    ∀ other : LocaleName, other.spelling ≠ "" -> Locale.named other = locale ->
      grammar.ActsAlike (ofLocale settings (some other)) ∧
      ∀ catalog missing id nouns arguments,
        (Localizer.mk catalog (ofLocale settings (some other)) missing).text id nouns arguments =
          (Localizer.mk catalog grammar missing).text id nouns arguments := by
  intro locale grammar
  refine ⟨counterWord_ofLocale nonempty, categoryOf_ofLocale nonempty,
    keepsCase_ofLocale_eq nonempty, ?_⟩
  intro other otherNonempty sameLocale
  have alike : grammar.ActsAlike (ofLocale settings (some other)) :=
    actsAlike_ofLocale nonempty otherNonempty sameLocale
  exact ⟨alike, Localizer.text_of_actsAlike alike⟩

/-- Blanks, letter case, separators and further parts of a name make no difference in Taiwan. -/
theorem ofLocale_agrees_with_tables_taiwan :
    (ofLocale {} (some (.text " ZH-tw-x "))).counterWord = "個" ∧
      (ofLocale {} (some (.text " ZH-tw-x "))).keepsCase = true ∧
      (ofLocale {} (some (.text " ZH-tw-x "))).ActsAlike (ofLocale {} (some (.text "zh_TW"))) := by
  have nonempty : (LocaleName.text " ZH-tw-x ").spelling ≠ "" := by decide
  have otherNonempty : (LocaleName.text "zh_TW").spelling ≠ "" := by decide
  have sameLocale : Locale.named (.text "zh_TW") = Locale.named (.text " ZH-tw-x ") := by
    decide +kernel
  obtain ⟨word, -, capitals, alike⟩ := ofLocale_agrees_with_tables nonempty {}
  have inTable : counterWordOf (Locale.named (.text " ZH-tw-x ")) = "個" := by decide +kernel
  have uncased :
      decide ((Locale.named (.text " ZH-tw-x ")).language ∈ uncasedLanguages) = true := by
    decide +kernel
  exact ⟨word.trans inTable, capitals.trans uncased, (alike _ otherNonempty sameLocale).1⟩

end Grammar
end Concord
