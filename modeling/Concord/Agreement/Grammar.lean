import Concord.Agreement.CounterWord
import Concord.Agreement.Family
import Concord.Plural.Language
import Concord.Settings

/-!
# The grammar of a locale

The grammar of a locale says how its modifiers agree, whether words keep their
capitals inside a sentence, which counter word is used and how numbers are
sorted.  It is chosen by the language; settings may override the treatment of
capitals.
-/

namespace Concord

/-- How one locale makes words agree. -/
structure Grammar where
  /-- The way in which modifiers agree with their nouns. -/
  family : AgreementFamily
  /-- The locale, as it was named. -/
  locale : LocaleName
  /-- Whether words keep their capitals inside a sentence. -/
  keepsCase : Bool
  /-- The counter word for what has none of its own. -/
  counterWord : String
  deriving DecidableEq

namespace Grammar

/-- The grammar of a family; what the caller leaves open is filled in by the family. -/
def ofFamily (family : AgreementFamily) (locale : LocaleName)
    (keepsCase : Option Bool) (counterWord : Option String) : Grammar :=
  { family := family
    locale := locale
    keepsCase := keepsCase.getD family.lacksCase
    counterWord := counterWord.getD "" }

/-- The counter word that a family looks up when the caller does not mention one. -/
def ownCounterWord (family : AgreementFamily) (locale : LocaleName) : Option String :=
  if family.countsByLocale then some (counterWordOf (Locale.named locale)) else none

/-- The languages that are written without letter case. -/
def uncasedLanguages : List String := ["ja", "zh", "ko", "th", "vi", "tl"]

/-- The family of each language that has one of its own. -/
def familyByLanguage : Table String AgreementFamily := [
    ("en", .english), ("de", .german), ("es", .romance), ("pt", .romance), ("it", .romance),
    ("fr", .french), ("ca", .french), ("rm", .french), ("ro", .genderFirst),
    ("iw", .genderFirst), ("he", .genderFirst), ("ko", .korean), ("in", .malayic),
    ("id", .malayic), ("ms", .malayic), ("ja", .isolating), ("zh", .isolating),
    ("th", .isolating), ("vi", .isolating), ("tl", .isolating)
  ]

/-- The family of a language. -/
def familyOf (language : String) : AgreementFamily :=
  (familyByLanguage.get? language).getD .plain

/-- The locale name that counts: the one asked for unless it is empty, or that of the settings. -/
def effectiveLocale (settings : Settings) (locale : Option LocaleName) : LocaleName :=
  (locale.filter fun name => name.spelling ≠ "").getD (.text settings.defaultLocale)

/-- A name that is not empty is not left to the settings. -/
theorem effectiveLocale_of_ne_empty
    {name : LocaleName}
    (nonempty : name.spelling ≠ "")
    (settings : Settings) :
    effectiveLocale settings (some name) = name := by
  rw [effectiveLocale, Option.filter_some, if_pos (decide_eq_true nonempty), Option.getD_some]

/-- The counter word that goes with a locale; the plain family looks up none of its own. -/
def localCounterWord (family : AgreementFamily) (locale : LocaleName) : Option String :=
  match family with
  | .plain => some (counterWordOf (Locale.named locale))
  | _ => ownCounterWord family locale

/-- The plain family and those that count by locale have the counter word of the locale. -/
theorem localCounterWord_eq (family : AgreementFamily) (name : LocaleName) :
    localCounterWord family name =
      if family = .plain ∨ family.countsByLocale = true then
        some (counterWordOf (Locale.named name))
      else none := by
  cases family <;> rfl

/-- The grammar of a locale; without a name, of the default locale. -/
def ofLocale (settings : Settings) (locale : Option LocaleName) : Grammar :=
  let name := effectiveLocale settings locale
  let family := familyOf (Locale.named name).language
  ofFamily family name settings.keepsCase (localCounterWord family name)

/-- How the grammar is shown. -/
def display (grammar : Grammar) : String :=
  grammar.family.title ++ "(locale=" ++ grammar.locale.literal ++ ")"

/-- A noun form as it stands inside a sentence. -/
def insideNoun (grammar : Grammar) (word : String) : String :=
  if grammar.family.capitalizesNouns || grammar.keepsCase then word else Text.lowercase word

/-- An adjective or article form as it stands inside a sentence. -/
def insideModifier (grammar : Grammar) (word : String) : String :=
  if grammar.keepsCase then word else Text.lowercase word

/-- The rule by which the locale sorts numbers. -/
def pluralRule (grammar : Grammar) : Option PluralRule :=
  PluralRule.ofLocale? (Locale.named grammar.locale)

/-- The category of a value. -/
def categoryOf (grammar : Grammar) (value : Value) : Except NumberError PluralCategory :=
  pluralCategory grammar.pluralRule value

end Grammar
end Concord
