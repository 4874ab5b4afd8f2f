import Concord.Locale
import Concord.Proofs.Text.Alphabet

/-!
# Subtags

The name of a locale is made of subtags, runs of letters with a separator
between each and the next.  Reading it gives the first subtag as the language
and the second one as the country, whatever that is meant to be, and passes
over the others.
-/

namespace Concord
namespace Locale

/-- A part of the name of a locale, made of letters of the alphabet. -/
@[ext] structure Subtag where
  letters : List Char
  allAlpha : letters.all Char.isAlpha = true

/-- A mark between two parts of the name of a locale. -/
structure Separator where
  /-- The character between the parts. -/
  mark : Char
  /-- The character is one that separates parts. -/
  separates : isSeparator mark = true

/-- The mark of the shorter spelling. -/
def Separator.underscore : Separator :=
  ⟨'_', by decide⟩

/-- The mark of the standard spelling. -/
def Separator.hyphen : Separator :=
  ⟨'-', by decide⟩

namespace Subtag

theorem isAlpha (subtag : Subtag) : ∀ c ∈ subtag.letters, c.isAlpha = true :=
  List.all_eq_true.mp subtag.allAlpha

/-- A subtag as a text. -/
def text (subtag : Subtag) : String :=
  String.ofList subtag.letters

@[simp] theorem toList_text (subtag : Subtag) : subtag.text.toList = subtag.letters :=
  String.toList_ofList

/-- A subtag in lowercase. -/
def lower (subtag : Subtag) : Subtag where
  letters := subtag.letters.map Char.toLower
  allAlpha := by
    rw [List.all_map, List.all_eq_true]
    intro c present
    exact Text.isAlpha_toLower (subtag.isAlpha c present)

/-- A subtag in uppercase. -/
def upper (subtag : Subtag) : Subtag where
  letters := subtag.letters.map Char.toUpper
  allAlpha := by
    rw [List.all_map, List.all_eq_true]
    intro c present
    exact Text.isAlpha_toUpper (subtag.isAlpha c present)

theorem lowercase_text (subtag : Subtag) : Text.lowercase subtag.text = subtag.lower.text := by
  rw [Text.lowercase, toList_text, Text.lowerFrom_of_isAlpha subtag.isAlpha]
  rfl

theorem uppercase_text (subtag : Subtag) : Text.uppercase subtag.text = subtag.upper.text := by
  rw [Text.uppercase, toList_text, Text.upperMap_applyAll_of_isAlpha subtag.isAlpha]
  rfl

end Subtag

/-- The characters of a first subtag and of others, each after a separator. -/
def spell : Subtag -> List (Separator × Subtag) -> List Char
  | subtag, [] => subtag.letters
  | subtag, (separator, next) :: rest => subtag.letters ++ separator.mark :: spell next rest

/-- The name of a locale that is made of subtags. -/
def nameOf (language : Subtag) (others : List (Separator × Subtag)) : String :=
  String.ofList (spell language others)

variable (language : Subtag) (others : List (Separator × Subtag))

/-- No letter separates parts. -/
theorem no_separator_in
    {c : Char}
    (letter : c.isAlpha = true) :
    (!isSeparator c) = true :=
  Text.of_isAlpha (fun c => (!isSeparator c) = true) (by decide +kernel) letter

theorem not_isBlank_of_isSeparator
    {c : Char}
    (separates : isSeparator c = true) :
    ¬ Text.isBlank c = true := by
  rw [isSeparator, Bool.or_eq_true, decide_eq_true_eq, decide_eq_true_eq] at separates
  rcases separates with rfl | rfl
  · decide
  · decide

/-- The first part of a name is its first subtag. -/
theorem headPart_spell : headPart (spell language others) = language.letters := by
  have inside : ∀ c ∈ language.letters, (!isSeparator c) = true := fun c present =>
    no_separator_in (language.isAlpha c present)
  cases others with
  | nil => exact List.takeWhile_eq_self_iff.mpr inside
  | cons next rest =>
      obtain ⟨separator, subtag⟩ := next
      rw [spell, headPart, List.takeWhile_append_of_pos inside,
        List.takeWhile_cons_of_neg (by simp [separator.separates]), List.append_nil]

/-- Behind the first separator the name of the rest begins. -/
theorem tailParts_spell (separator : Separator) (next : Subtag) :
    tailParts (spell language ((separator, next) :: others)) = spell next others := by
  have inside : ∀ c ∈ language.letters, (!isSeparator c) = true := fun c present =>
    no_separator_in (language.isAlpha c present)
  rw [spell, tailParts, List.dropWhile_append_of_pos inside,
    List.dropWhile_cons_of_neg (by simp [separator.separates])]
  rfl

/-- A name spelt with subtags holds nothing blank. -/
theorem not_isBlank_of_mem_spell :
    ∀ c ∈ spell language others, ¬ Text.isBlank c = true := by
  induction others generalizing language with
  | nil => exact fun c present => Text.not_isBlank_of_isAlpha (language.isAlpha c present)
  | cons next rest inductionHypothesis =>
      obtain ⟨separator, subtag⟩ := next
      intro c present
      rcases List.mem_append.mp present with inside | later
      · exact Text.not_isBlank_of_isAlpha (language.isAlpha c inside)
      · rcases List.mem_cons.mp later with rfl | beyond
        · exact not_isBlank_of_isSeparator separator.separates
        · exact inductionHypothesis subtag c beyond

/-- A name reads as its first two subtags, the one in lowercase and the other in uppercase. -/
theorem ofName_nameOf (separator : Separator) (next : Subtag) :
    ofName (nameOf language ((separator, next) :: others)) =
      ⟨language.lower.text, next.upper.text⟩ := by
  have trimmed := Text.trimBy_of_none
    (not_isBlank_of_mem_spell language ((separator, next) :: others))
  rw [← language.lowercase_text, ← next.uppercase_text, ofName, nameOf, String.toList_ofList,
    Text.trimBlanks, trimmed, headPart_spell, tailParts_spell, headPart_spell]
  rfl

/-- The key of a country tells the language and the country. -/
theorem parts_of_regionKey
    {country : Subtag}
    {key : String}
    (isKey : (Locale.mk language.text country.text).regionKey = key) :
    language.text = String.ofList (headPart key.toList) ∧
      country.text = String.ofList (headPart (tailParts key.toList)) := by
  have spelled : key.toList = spell language [(.underscore, country)] := by
    simp [← isKey, regionKey, spell, Separator.underscore]
  rw [spelled, tailParts_spell, headPart_spell, headPart_spell]
  exact ⟨rfl, rfl⟩

end Locale
end Concord
