import Concord.Table
import Concord.Term.Kind
import Concord.Text.Blank
import Concord.Text.Lower
import Concord.Text.Quoted
import Concord.Text.Upper

/-!
# Locales

A locale names a language and possibly a country, with a hyphen or an
underscore between them.  Only the first two parts of the name count.  A kind
of term names the locale that its letter spells.
-/

namespace Concord

/-- A language in lowercase and a country in uppercase; either may be empty. -/
structure Locale where
  /-- The language, in lowercase. -/
  language : String
  /-- The country, in uppercase. -/
  country : String
  deriving DecidableEq

/-- The name that a locale is asked for by. -/
inductive LocaleName
  | text (name : String)
  | tag (kind : TermKind)
  deriving DecidableEq

namespace LocaleName

/-- What a name spells. -/
def spelling : LocaleName -> String
  | .text name => name
  | .tag kind => kind.letter

/-- A name inside another text. -/
def literal : LocaleName -> String
  | .text name => Text.quoted name
  | .tag kind => kind.literal

end LocaleName

namespace Locale

/-- The marks that stand between the parts of a locale name. -/
def isSeparator (c : Char) : Bool :=
  c = '_' || c = '-'

/-- The part of a name before the first separator. -/
def headPart (cs : List Char) : List Char :=
  cs.takeWhile fun c => !isSeparator c

/-- What follows the first separator of a name. -/
def tailParts (cs : List Char) : List Char :=
  (cs.dropWhile fun c => !isSeparator c).drop 1

/-- Read the name of a locale. -/
def ofName (name : String) : Locale :=
  let cs := Text.trimBlanks name.toList
  { language := Text.lowercase (String.ofList (headPart cs))
    country := Text.uppercase (String.ofList (headPart (tailParts cs))) }

/-- The locale that a name spells. -/
def named (name : LocaleName) : Locale :=
  ofName name.spelling

/-- The key of tables that tell countries apart. -/
def regionKey (locale : Locale) : String :=
  locale.language ++ "_" ++ locale.country

/-- What a table holds for a locale: for the country if it has an entry, else for the language. -/
def select? {α : Type} (table : Table String α) (locale : Locale) : Option α :=
  let general := table.get? locale.language
  if locale.country = "" then general else (table.get? locale.regionKey).or general

theorem select?_of_regionKey_not_mem
    {α : Type}
    {table : Table String α}
    {locale : Locale}
    (absent : locale.regionKey ∉ Table.keys table) :
    locale.select? table = table.get? locale.language := by
  unfold select?
  split
  · rfl
  · rw [Table.get?_eq_none absent, Option.none_or]

/-- A table without an entry for any country of a language holds the same for all of them. -/
theorem select?_of_no_countries
    {α : Type}
    {table : Table String α}
    {locale : Locale}
    (noCountries : ∀ key ∈ Table.keys table, ¬ (locale.language ++ "_").toList <+: key.toList) :
    locale.select? table = table.get? locale.language := by
  apply select?_of_regionKey_not_mem
  intro present
  exact noCountries locale.regionKey present ⟨locale.country.toList, String.toList_append.symm⟩

/-- What a table holds for a locale is the entry of its country or of its language. -/
theorem mem_of_select?
    {α : Type}
    {table : Table String α}
    {locale : Locale}
    {value : α}
    (selected : locale.select? table = some value) :
    (locale.regionKey, value) ∈ table ∨ (locale.language, value) ∈ table := by
  unfold select? at selected
  split at selected
  · exact .inr (Table.mem_of_get? selected)
  · rcases Option.or_eq_some_iff.mp selected with special | ⟨-, general⟩
    · exact .inl (Table.mem_of_get? special)
    · exact .inr (Table.mem_of_get? general)

/-- The key of a country has a mark between language and country. -/
theorem mark_mem_regionKey (locale : Locale) : '_' ∈ locale.regionKey.toList := by
  simp [regionKey]

end Locale
end Concord
