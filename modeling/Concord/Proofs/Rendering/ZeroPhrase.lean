import Concord.Proofs.Plural.Zero
import Concord.Proofs.Rendering.Phrase

/-!
# Phrases for zero

A plural phrase may have a variant of its own for zero.  It is meant for the
number zero and for nothing else: a zero of whatever sign and digits chooses it
in every language, and whatever else the argument is, the text does not depend
on it.  Only in the languages that have a category of that name does the rule
of the language choose it as well.
-/

namespace Concord

/-- Two tables of variants that differ at most in what they hold for zero. -/
def AgreeBesidesZero (variants others : List (String × Body)) : Prop :=
  ∀ key, key ≠ PluralCategory.zero.name -> Table.get? others key = Table.get? variants key

namespace Context

theorem hasVariant_of_get?
    {key : String}
    {variants : List (String × Body)}
    {phrase : Body}
    (found : Table.get? variants key = some phrase) :
    hasVariant key variants = true :=
  List.any_eq_true.mpr ⟨(key, phrase), Table.mem_of_get? found, decide_eq_true rfl⟩

/-- The argument at a position is the number zero. -/
def ReadsZero (context : Context) (argument : Option Int) : Prop :=
  ∃ value, context.arguments.entryAt argument = .ok value ∧ value.rational? = some 0

/-- What plural phrases with some argument hold for zero has no influence on their text. -/
def DisregardsZeroPhrase (context : Context) (argument : Option Int) : Prop :=
  ∀ neighbours fallback variants others, AgreeBesidesZero variants others ->
    context.termText (.plural argument fallback others) neighbours =
      context.termText (.plural argument fallback variants) neighbours

variable {context : Context} {argument : Option Int}

/-- A plural phrase that chooses by a key renders as the variant of that key or the fallback. -/
theorem termText_plural
    {key : String}
    {fallback : Body}
    {variants : List (String × Body)}
    (chosen : context.pluralKey argument
      (hasVariant PluralCategory.zero.name variants) = .ok key)
    (neighbours : Neighbours) :
    context.termText (.plural argument fallback variants) neighbours =
      context.bodyText (Term.variantFor (some key) fallback variants) := by
  rw [termText_eq, chosenPhrase, phraseKey, chosen]
  rfl

theorem termText_plural_of_error
    {error : NumberError}
    {fallback : Body}
    {variants : List (String × Body)}
    (failed : context.pluralKey argument
      (hasVariant PluralCategory.zero.name variants) = .error error)
    (neighbours : Neighbours) :
    context.termText (.plural argument fallback variants) neighbours = .fail error := by
  rw [termText_eq, chosenPhrase, phraseKey, failed]
  rfl

/-- The number zero chooses the variant for zero, if there is one. -/
theorem pluralKey_of_readsZero
    (zero : context.ReadsZero argument) :
    context.pluralKey argument true = .ok PluralCategory.zero.name := by
  obtain ⟨value, read, isZero⟩ := zero
  rw [pluralKey_eq read (value.isNumericZero_iff.mpr isZero), if_pos ⟨rfl, rfl⟩]

/-- A text is not the number zero, even if it is the digit. -/
theorem not_readsZero_of_text
    {content : String}
    (read : context.arguments.entryAt argument = .ok (.text content)) :
    ¬ context.ReadsZero argument := by
  rintro ⟨value, found, isZero⟩
  obtain rfl := Except.ok.inj (read.symm.trans found)
  exact Option.some_ne_none _ isZero.symm

/-- Whether there is a variant for zero makes a difference to the number zero alone. -/
theorem pluralKey_of_not_readsZero
    (notZero : ¬ context.ReadsZero argument)
    (hasZero : Bool) :
    context.pluralKey argument hasZero = context.pluralKey argument false := by
  cases read : context.arguments.entryAt argument with
  | error error => rw [pluralKey_of_refused read, pluralKey_of_refused read]
  | ok value =>
      cases compared : value.isNumericZero with
      | error error =>
          rw [pluralKey_of_uncompared read compared, pluralKey_of_uncompared read compared]
      | ok isZero =>
          have notTrue : isZero ≠ true := by
            rintro rfl
            exact notZero ⟨value, read, value.isNumericZero_iff.mp compared⟩
          rw [pluralKey_eq read compared, pluralKey_eq read compared, if_neg (mt And.left notTrue),
            if_neg (mt And.left notTrue)]

/-- In a language without a category for zero, what is no zero never chooses the variant for it. -/
theorem disregardsZeroPhrase_of_not_readsZero
    (without : (Locale.named context.grammar.locale).language ∉ PluralRule.languagesWithZero)
    (notZero : ¬ context.ReadsZero argument) :
    context.DisregardsZeroPhrase argument := by
  intro neighbours fallback variants others agree
  have sameKey := pluralKey_of_not_readsZero notZero
  cases chosen : context.pluralKey argument false with
  | error error =>
      rw [termText_plural_of_error ((sameKey _).trans chosen),
        termText_plural_of_error ((sameKey _).trans chosen)]
  | ok key =>
      have notZeroKey : key ≠ PluralCategory.zero.name := by
        rintro rfl
        obtain ⟨value, isZero, -, -, ⟨-, hasVariant, -⟩ | ⟨-, category, sorted, sameName⟩⟩ :=
          exists_of_pluralKey chosen
        · cases hasVariant
        · rw [← PluralCategory.name_injective sameName] at sorted
          exact pluralCategory_ne_zero without value sorted
      rw [termText_plural ((sameKey _).trans chosen), termText_plural ((sameKey _).trans chosen),
        Term.variantFor, Term.variantFor, Option.bind_some, Option.bind_some, agree key notZeroKey]

/-- In a language with a category for zero, a text of that digit chooses the variant for zero. -/
theorem not_disregardsZeroPhrase_of_text
    (read : context.arguments.entryAt argument = .ok (.text "0"))
    (zero : (Locale.named context.grammar.locale).language ∈ PluralRule.languagesWithZero) :
    ¬ context.DisregardsZeroPhrase argument := by
  intro disregards
  have sorted : context.grammar.categoryOf (.text "0") = .ok .zero := pluralCategory_zero_text zero
  have compared : (Value.text "0").isNumericZero = .ok false := rfl
  have chosen (hasZero : Bool) :
      context.pluralKey argument hasZero = .ok PluralCategory.zero.name := by
    rw [pluralKey_eq read compared, if_neg (fun both => Bool.false_ne_true both.1), sorted]
    rfl
  have agree : AgreeBesidesZero [("zero", .text "none")] [] := by
    intro key special
    exact (if_neg special.symm).symm
  have same := disregards (Segment.among []) (.text "") _ _ agree
  rw [termText_plural (chosen _), termText_plural (chosen _)] at same
  have sameText : Except.ok "" = Except.ok "none" := congrArg Rendering.outcome same
  exact absurd (Except.ok.inj sameText) (by decide)

/--
The phrase for zero is for the number zero.  A zero of whatever sign and digits
renders as that phrase in every language.  Of whatever else is given, or is not
given, no text depends on that phrase, exactly if the language is not Arabic,
Welsh or Latvian.
-/
theorem zeroPhrase_is_for_zero (catalog : Catalog) (grammar : Grammar) (nouns : Value) :
    (∀ arguments argument, (Context.mk catalog grammar nouns arguments).ReadsZero argument ->
      ∀ neighbours fallback variants phrase,
        Table.get? variants PluralCategory.zero.name = some phrase ->
        (Context.mk catalog grammar nouns arguments).termText
            (.plural argument fallback variants) neighbours =
          (Context.mk catalog grammar nouns arguments).bodyText phrase) ∧
    ((∀ arguments argument, ¬ (Context.mk catalog grammar nouns arguments).ReadsZero argument ->
        (Context.mk catalog grammar nouns arguments).DisregardsZeroPhrase argument) ↔
      (Locale.named grammar.locale).language ∉ ["ar", "cy", "lv"]) := by
  have sameList : ["ar", "cy", "lv"] = PluralRule.languagesWithZero := rfl
  rw [sameList]
  refine ⟨?_, ?_, ?_⟩
  · intro arguments argument zero neighbours fallback variants phrase found
    have chosen : (Context.mk catalog grammar nouns arguments).pluralKey argument
        (hasVariant PluralCategory.zero.name variants) = .ok PluralCategory.zero.name := by
      rw [hasVariant_of_get? found]
      exact pluralKey_of_readsZero zero
    rw [termText_plural chosen, Term.variantFor, Option.bind_some, found, Option.getD_some]
  · intro disregards zero
    have read : (Context.mk catalog grammar nouns (.list [.text "0"])).arguments.entryAt (some 0) =
        .ok (.text "0") := rfl
    exact not_disregardsZeroPhrase_of_text read zero (disregards _ _ (not_readsZero_of_text read))
  · intro without arguments argument notZero
    exact disregardsZeroPhrase_of_not_readsZero without notZero

/-- Russian, given minus zero with two fraction digits and the digit of zero as a text. -/
def russianZeros : Context where
  catalog := .empty
  grammar := .ofLocale {} (some (.text "ru"))
  nouns := .null
  arguments := .list [.decimal (.finite ⟨true, 0, -2⟩), .text "0"]

/-- In Russian the number chooses the phrase for zero, and the text is told from it. -/
theorem zeroPhrase_is_for_zero_russian :
    russianZeros.ReadsZero (some 0) ∧
      russianZeros.termText (.plural (some 0) (.text "files") [("zero", .text "no files")])
          (Segment.among []) = russianZeros.bodyText (.text "no files") ∧
      ¬ russianZeros.ReadsZero (some 1) ∧
      russianZeros.DisregardsZeroPhrase (some 1) := by
  obtain ⟨zeroRenders, disregards⟩ :=
    zeroPhrase_is_for_zero russianZeros.catalog russianZeros.grammar russianZeros.nouns
  have zero : russianZeros.ReadsZero (some 0) :=
    ⟨.decimal (.finite ⟨true, 0, -2⟩), rfl, (Value.isNumericZero_iff _).mp rfl⟩
  have read : russianZeros.arguments.entryAt (some 1) = .ok (.text "0") := rfl
  have notZero := not_readsZero_of_text read
  have without : (Locale.named russianZeros.grammar.locale).language ∉ ["ar", "cy", "lv"] := by
    decide +kernel
  exact ⟨zero, zeroRenders russianZeros.arguments (some 0) zero _ _ _ _ rfl, notZero,
    disregards.mpr without russianZeros.arguments (some 1) notZero⟩

end Context
end Concord
