import Concord.Locale

/-!
# Counter words

Some languages count with a word of measure between the number and the noun.
A noun may name its own; otherwise the word of the language is used.
-/

namespace Concord

/-- The counter word of each language that has one, by country where the script differs. -/
def counterWords : Table String String := [
    ("ja", "つ"), ("zh", "个"), ("zh_TW", "個"), ("zh_HK", "個"), ("ko", "개"), ("vi", "cái"),
    ("bn", "টা"), ("ms", "buah"), ("in", "buah"), ("id", "buah")
  ]

/-- The counter word of a locale; empty where nothing is counted that way. -/
def counterWordOf (locale : Locale) : String :=
  (locale.select? counterWords).getD ""

end Concord
