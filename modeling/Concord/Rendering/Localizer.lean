import Concord.Catalog.Merge
import Concord.Rendering.Body
import Concord.Rendering.Placeholder

/-!
# Rendering labels

A label is rendered by resolving the terms of its body and then filling the
placeholders of the text.  A label that is unknown or empty renders as the
text for missing labels.
-/

namespace Concord

/-- A catalog with the grammar of a locale and the text for missing labels. -/
structure Localizer where
  /-- The dictionary and the labels. -/
  catalog : Catalog
  /-- The grammar of the locale. -/
  grammar : Grammar
  /-- The text of a label that is unknown or empty. -/
  missing : String

namespace Localizer

/-- The localizer of a locale, with the text for missing labels of the settings. -/
def ofLocale (settings : Settings) (catalog : Catalog) (locale : Option LocaleName) :
    Localizer :=
  ⟨catalog, Grammar.ofLocale settings locale, settings.missingLabel⟩

/-- The localizer of a locale for one bundle, or why the bundle cannot be merged. -/
def ofBundle (settings : Settings) (bundle : Value) (locale : Option LocaleName) :
    Except MergeFailure Localizer :=
  let merged := Catalog.ofBundle bundle
  match merged.failure with
  | none => .ok (ofLocale settings merged.catalog locale)
  | some failure => .error failure

/-- What the terms of a body see for some nouns and arguments. -/
def context (localizer : Localizer) (nouns arguments : Value) : Context :=
  ⟨localizer.catalog, localizer.grammar, nouns, arguments⟩

/-- The body of the label that a value stands for, if it is known and not empty. -/
def usableLabel (localizer : Localizer) (id : Value) : Except NumberError (Option Body) :=
  (localizer.catalog.labelUnder id).map fun body => body.filter fun body => !body.isEmpty

/-- The text of a label before its placeholders are filled. -/
def unfilledText (localizer : Localizer) (id nouns arguments : Value) : Rendering String :=
  (Rendering.lift (localizer.usableLabel id)).bind fun body =>
    match body with
    | none => .pure localizer.missing
    | some body => (localizer.context nouns arguments).bodyText body

/-- Fill the placeholders of a rendered text. -/
def fill (text : String) (arguments : Value) : Rendering String :=
  .lift (fillPlaceholders text arguments)

/-- The text of a label. -/
def text (localizer : Localizer) (id nouns arguments : Value) : Rendering String :=
  (localizer.unfilledText id nouns arguments).bind fun text => fill text arguments

/-- A bundle has a localizer exactly if it can be merged, and then one for all of its entries. -/
theorem ofBundle_eq_ok_iff
    {settings : Settings}
    {bundle : Value}
    {locale : Option LocaleName}
    {localizer : Localizer} :
    ofBundle settings bundle locale = .ok localizer ↔
      (Catalog.ofBundle bundle).failure = none ∧
        localizer = ofLocale settings (Catalog.ofBundle bundle).catalog locale := by
  cases stopped : (Catalog.ofBundle bundle).failure with
  | none => simp [ofBundle, stopped, eq_comm]
  | some failure => simp [ofBundle, stopped]

/-- Arguments that replace every placeholder alike fill a text alike. -/
theorem fill_congr
    {arguments other : Value}
    (given : arguments ≠ .null)
    (otherGiven : other ≠ .null)
    (sameSlots : ∀ digits, slotText other digits = slotText arguments digits)
    (text : String) :
    fill text other = fill text arguments := by
  rw [fill, fill, fillPlaceholders_of_given otherGiven, fillPlaceholders_of_given given,
    piecesText_congr sameSlots]

/-- Labels with the same usable body have the same text if the body has. -/
theorem unfilledText_congr
    {first second : Localizer}
    {id nouns arguments otherNouns otherArguments : Value}
    (sameMissing : second.missing = first.missing)
    (sameLabel : second.usableLabel id = first.usableLabel id)
    (sameText : ∀ body, first.usableLabel id = .ok (some body) ->
      (second.context otherNouns otherArguments).bodyText body =
        (first.context nouns arguments).bodyText body) :
    second.unfilledText id otherNouns otherArguments =
      first.unfilledText id nouns arguments := by
  rw [unfilledText, unfilledText, sameLabel, sameMissing]
  cases usable : first.usableLabel id with
  | error error => rfl
  | ok found =>
      cases found with
      | none => rfl
      | some body => exact sameText body usable

end Localizer
end Concord
