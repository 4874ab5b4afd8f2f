import Concord.Proofs.Catalog.History
import Concord.Proofs.Rendering.Congruence
import Concord.Rendering.Localizer

/-!
# Wrapped arguments

An argument may come wrapped in a list of its own.  A placeholder shows it as
it shows the argument itself, but a plural phrase takes the list for what it
is: no number, which belongs to the category of all that have no other.  Labels
therefore render alike for wrapped arguments as long as their plural phrases
would have chosen that category anyway.
-/

namespace Concord

namespace Value

/-- Some arguments, each wrapped in a list of its own. -/
def wrapped (items : List Value) : Value :=
  .list (items.map fun item => .list [item])

/-- An absent value, a truth value, a number or a text. -/
def isScalar : Value -> Bool
  | .null | .truth _ | .integer _ | .float _ | .decimal _ | .text _ => true
  | _ => false

theorem entryAt?_wrapped (items : List Value) (position : Int) :
    (wrapped items).entryAt? position =
      ((Value.list items).entryAt? position).map fun item => .list [item] := by
  simp only [wrapped, entryAt?]
  split
  · rfl
  · rw [List.getElem?_map]

theorem mem_of_entryAt?
    {items : List Value}
    {position : Int}
    {item : Value}
    (found : (Value.list items).entryAt? position = some item) :
    item ∈ items := by
  simp only [entryAt?] at found
  split at found
  · cases found
  · exact List.mem_of_getElem? found

end Value

/-! ## Placeholders -/

theorem unwrapped_of_isScalar
    {item : Value}
    (scalar : item.isScalar = true) :
    unwrapped item = item := by
  cases item with
  | list items | tuple items => cases scalar
  | _ => rfl

section

variable {items : List Value} (scalars : ∀ item ∈ items, item.isScalar = true)

include scalars

theorem slotText_wrapped (digits : List Char) :
    slotText (.wrapped items) digits = slotText (.list items) digits := by
  unfold slotText
  rw [Value.entryAt?_wrapped]
  cases found : (Value.list items).entryAt? (Nat.ofDigitChars 10 digits 0) with
  | none => rfl
  | some item =>
      have scalar := scalars item (Value.mem_of_entryAt? found)
      have inside : unwrapped (.list [item]) = unwrapped item :=
        (unwrapped_of_isScalar scalar).symm
      simp only [Option.map_some, inside]

/-- Placeholders show wrapped arguments as they show the arguments themselves. -/
theorem fill_wrapped (text : String) :
    Localizer.fill text (.wrapped items) = Localizer.fill text (.list items) := by
  apply Localizer.fill_congr
  · intro absent
    cases absent
  · intro absent
    cases absent
  · exact slotText_wrapped scalars

end

/-! ## Plural phrases -/

/-- A list is no number, whatever it holds. -/
theorem Grammar.categoryOf_list (grammar : Grammar) (items : List Value) :
    grammar.categoryOf (.list items) = .ok .other := rfl

/-- A value that belongs to the category of what has no other, and is no zero. -/
structure Grammar.Disregards (grammar : Grammar) (value : Value) : Prop where
  /-- The value is no numeric zero. -/
  nonzero : value.isNumericZero = .ok false
  /-- The value belongs to the category of everything else. -/
  category : grammar.categoryOf value = .ok .other

theorem Grammar.disregards_null (grammar : Grammar) : grammar.Disregards .null where
  nonzero := rfl
  category := rfl

theorem Grammar.disregards_list (grammar : Grammar) (items : List Value) :
    grammar.Disregards (.list items) where
  nonzero := rfl
  category := grammar.categoryOf_list items

namespace Context

theorem pluralKey_of_disregards
    {context : Context}
    {argument : Option Int}
    {value : Value}
    (hasZero : Bool)
    (read : context.arguments.entryAt argument = .ok value)
    (disregarded : context.grammar.Disregards value) :
    context.pluralKey argument hasZero = .ok PluralCategory.other.name := by
  rw [pluralKey_eq read disregarded.nonzero, disregarded.category]
  rfl

/-- Only a value that is disregarded chooses as what has no category, with a variant for zero. -/
theorem disregards_of_pluralKey
    {context : Context}
    {argument : Option Int}
    {value : Value}
    (read : context.arguments.entryAt argument = .ok value)
    (chosen : context.pluralKey argument true = .ok PluralCategory.other.name) :
    context.grammar.Disregards value := by
  obtain ⟨other, isZero, readToo, compared, byZero | ⟨otherwise, category, sorted, sameName⟩⟩ :=
    exists_of_pluralKey chosen
  · cases PluralCategory.name_injective byZero.2.2
  · obtain rfl := Except.ok.inj (read.symm.trans readToo)
    obtain rfl := PluralCategory.name_injective sameName
    obtain rfl : isZero = false := by simpa using otherwise
    exact ⟨compared, sorted⟩

/-- What an argument chooses is the name of a category. -/
theorem pluralKey_eq_name
    {context : Context}
    {argument : Option Int}
    {hasZero : Bool}
    {key : String}
    (chosen : context.pluralKey argument hasZero = .ok key) :
    ∃ category : PluralCategory, key = category.name := by
  obtain ⟨_, _, _, _, ⟨_, _, rfl⟩ | ⟨_, category, _, rfl⟩⟩ := exists_of_pluralKey chosen
  · exact ⟨.zero, rfl⟩
  · exact ⟨category, rfl⟩

/-- Every plural phrase that is reached chooses its variant for what has no category of its own. -/
def ChoosesOther (context : Context) (body : Body) : Prop :=
  ∀ content argument fallback variants,
    body.Reaches context.Enters content (.plural argument fallback variants) ->
      context.chosenPhrase (Segment.among content) (.plural argument fallback variants) =
        .ok (some (Term.variantFor (some PluralCategory.other.name) fallback variants))

end Context

namespace Localizer

variable (localizer : Localizer) (nouns : Value) (items : List Value)

/-- Of a list of arguments every position can be read. -/
theorem entryAt_list (argument : Option Int) :
    ∃ value, (Value.list items).entryAt argument = .ok value ∧
      (value = .null ∨ value ∈ items) := by
  cases argument with
  | none => exact ⟨.null, rfl, .inl rfl⟩
  | some index =>
      refine ⟨_, rfl, ?_⟩
      cases found : (Value.list items).entryAt? index with
      | none => exact .inl rfl
      | some item => exact .inr (Value.mem_of_entryAt? found)

/-- If a grammar disregards all arguments, plural phrases choose the variant of what has none. -/
theorem pluralKey_of_disregards_all
    (argument : Option Int)
    (hasZero : Bool)
    (disregarded : ∀ item ∈ items, localizer.grammar.Disregards item) :
    (localizer.context nouns (.list items)).pluralKey argument hasZero =
      .ok PluralCategory.other.name := by
  obtain ⟨value, read, isNull | present⟩ := entryAt_list items argument
  · subst isNull
    exact Context.pluralKey_of_disregards hasZero read localizer.grammar.disregards_null
  · exact Context.pluralKey_of_disregards hasZero read (disregarded value present)

theorem pluralKey_wrapped (argument : Option Int) (hasZero : Bool) :
    (localizer.context nouns (.wrapped items)).pluralKey argument hasZero =
      .ok PluralCategory.other.name := by
  apply pluralKey_of_disregards_all
  intro item present
  obtain ⟨inner, _, rfl⟩ := List.mem_map.mp present
  exact localizer.grammar.disregards_list [inner]

/-- A body in which plural phrases choose that variant renders alike for wrapped arguments. -/
theorem bodyText_wrapped
    {body : Body}
    (choosesOther : (localizer.context nouns (.list items)).ChoosesOther body) :
    (localizer.context nouns (.list items)).bodyText body =
      (localizer.context nouns (.wrapped items)).bodyText body := by
  refine Context.bodyText_congr ?_ ?_
  · intro content term reached
    cases term with
    | plural argument fallback variants =>
        rw [choosesOther content argument fallback variants reached, Context.chosenPhrase,
          Context.phraseKey, pluralKey_wrapped]
        rfl
    | noun ref | modifier ref | gender target fallback variants | counter target | bare kind =>
        rfl
  · intro content term reached
    cases term <;> rfl

/-- Labels whose plural phrases choose that variant render alike for wrapped arguments. -/
theorem text_wrapped
    {id : Value}
    (scalars : ∀ item ∈ items, item.isScalar = true)
    (choosesOther : ∀ body, localizer.usableLabel id = .ok (some body) ->
      (localizer.context nouns (.list items)).ChoosesOther body) :
    localizer.text id nouns (.wrapped items) = localizer.text id nouns (.list items) := by
  have sameUnfilled : localizer.unfilledText id nouns (.wrapped items) =
      localizer.unfilledText id nouns (.list items) := by
    unfold unfilledText
    cases usable : localizer.usableLabel id with
    | error error => rfl
    | ok found =>
        cases found with
        | none => rfl
        | some body =>
            exact (bodyText_wrapped localizer nouns items (choosesOther body usable)).symm
  unfold text
  rw [sameUnfilled]
  congr 1
  funext text
  exact fill_wrapped scalars text

end Localizer

/-! ## A label that tells categories apart -/

/-- Every category with its own name as a phrase. -/
def namedCategories : List (String × Body) :=
  [PluralCategory.zero, .one, .two, .few, .many, .other].map fun category =>
    (category.name, .text category.name)

/-- A label that names the category of the argument at a position. -/
def categoryLabel (position : Int) : Value :=
  .map [(.text "category", .list [.map [(.text "t", .text "p"), (.text "i", .integer position),
    (.text "v", .map (namedCategories.map fun variant => (.text variant.1, .text variant.1)))]])]

theorem catalogAfter_categoryLabel (position : Int) :
    MergeCall.catalogAfter [.labels (categoryLabel position)] =
      ⟨[], [("category", .segments [
        .term (.plural (some position) (.text "") namedCategories)])]⟩ := rfl

theorem variantFor_namedCategories (category : PluralCategory) (fallback : Body) :
    Term.variantFor (some category.name) fallback namedCategories = .text category.name := by
  cases category <;> rfl

theorem fill_name (category : PluralCategory) (arguments : Value) :
    Localizer.fill category.name arguments = .pure category.name := by
  unfold Localizer.fill fillPlaceholders
  split
  · rfl
  · cases category <;> rfl

namespace Localizer

/-- A localizer whose only label names the category of the argument at a position. -/
def namingCategory (grammar : Grammar) (missing : String) (position : Int) : Localizer :=
  ⟨MergeCall.catalogAfter [.labels (categoryLabel position)], grammar, missing⟩

variable (grammar : Grammar) (missing : String) (position : Int) (nouns arguments : Value)

theorem unfilledText_namingCategory :
    (namingCategory grammar missing position).unfilledText (.text "category") nouns arguments =
      (Rendering.lift (((namingCategory grammar missing position).context nouns arguments).pluralKey
        (some position) true)).bind fun key =>
          ((namingCategory grammar missing position).context nouns arguments).bodyText
            (Term.variantFor (some key) (.text "") namedCategories) := by
  have body : (namingCategory grammar missing position).usableLabel (.text "category") =
      .ok (some (.segments [.term (.plural (some position) (.text "") namedCategories)])) := by
    rw [usableLabel, namingCategory, catalogAfter_categoryLabel, Catalog.labelUnder_text]
    rfl
  have hasZero : Context.hasVariant PluralCategory.zero.name namedCategories = true := rfl
  rw [unfilledText, body, Rendering.lift_ok, Rendering.pure_bind]
  dsimp only
  rw [Context.bodyText_segments, Context.segmentsText_cons, Context.segmentsText_nil,
    Rendering.append_empty, Context.segmentText, Context.termText_eq, Context.chosenPhrase,
    Context.phraseKey, hasZero]
  cases ((namingCategory grammar missing position).context nouns arguments).pluralKey
    (some position) true <;> rfl

/-- The label names the category that the argument chooses. -/
theorem text_namingCategory
    {category : PluralCategory}
    (chosen : ((namingCategory grammar missing position).context nouns arguments).pluralKey
      (some position) true = .ok category.name) :
    (namingCategory grammar missing position).text (.text "category") nouns arguments =
      .pure category.name := by
  rw [text, unfilledText_namingCategory, chosen, Rendering.lift_ok, Rendering.pure_bind,
    variantFor_namedCategories, Context.bodyText_text, Rendering.pure_bind, fill_name]

/-- The label fails where no category can be chosen. -/
theorem text_namingCategory_of_error
    {error : NumberError}
    (failed : ((namingCategory grammar missing position).context nouns arguments).pluralKey
      (some position) true = .error error) :
    (namingCategory grammar missing position).text (.text "category") nouns arguments =
      .fail error := by
  rw [text, unfilledText_namingCategory, failed, Rendering.lift_error, Rendering.fail_bind,
    Rendering.fail_bind]

/-- If the label reads alike for wrapped arguments, the grammar disregards the argument. -/
theorem disregards_of_namingCategory
    {items : List Value}
    {item : Value}
    {index : Nat}
    (atIndex : items[index]? = some item)
    (alike : ((namingCategory grammar missing index).text (.text "category") .null
        (.wrapped items)).outcome =
      ((namingCategory grammar missing index).text (.text "category") .null
        (.list items)).outcome) :
    grammar.Disregards item := by
  have read : (Value.list items).entryAt (some (index : Int)) = .ok item := by
    have notNegative : ¬ (index : Int) < 0 := by omega
    simp [Value.entryAt, Value.needsLongDigits, Value.entryAt?, notNegative, atIndex]
  have wrappedKey := pluralKey_wrapped (namingCategory grammar missing index) .null items
    (some (index : Int)) true
  rw [text_namingCategory _ _ _ _ _ wrappedKey] at alike
  cases chosen : ((namingCategory grammar missing index).context .null (.list items)).pluralKey
      (some (index : Int)) true with
  | error error =>
      rw [text_namingCategory_of_error _ _ _ _ _ chosen] at alike
      cases alike
  | ok key =>
      obtain ⟨category, rfl⟩ := Context.pluralKey_eq_name chosen
      rw [text_namingCategory _ _ _ _ _ chosen] at alike
      have sameName : PluralCategory.other.name = category.name := Except.ok.inj alike
      rw [← PluralCategory.name_injective sameName] at chosen
      exact Context.disregards_of_pluralKey read chosen

/--
Placeholders never tell wrapped arguments from the arguments themselves, and no
label does in which the plural phrases choose the variant of what has no
category of its own.  No label at all does exactly if the grammar has no other
category for any of the arguments, and none of them is a zero.
-/
theorem text_wrapped_iff
    {items : List Value}
    (scalars : ∀ item ∈ items, item.isScalar = true) :
    (∀ text, fill text (.wrapped items) = fill text (.list items)) ∧
      (∀ (localizer : Localizer) (id nouns : Value),
        (∀ body, localizer.usableLabel id = .ok (some body) ->
          (localizer.context nouns (.list items)).ChoosesOther body) ->
        localizer.text id nouns (.wrapped items) = localizer.text id nouns (.list items)) ∧
      ∀ (grammar : Grammar) (missing : String),
        (∀ (calls : List MergeCall) (id nouns : Value),
          ((Localizer.mk (MergeCall.catalogAfter calls) grammar missing).text id nouns
            (.wrapped items)).outcome =
          ((Localizer.mk (MergeCall.catalogAfter calls) grammar missing).text id nouns
            (.list items)).outcome) ↔
        ∀ item ∈ items, grammar.Disregards item := by
  refine ⟨fill_wrapped scalars, ?_, ?_⟩
  · intro localizer id nouns choosesOther
    exact localizer.text_wrapped nouns items scalars choosesOther
  · intro grammar missing
    constructor
    · intro alike item present
      obtain ⟨index, atIndex⟩ := List.mem_iff_getElem?.mp present
      exact disregards_of_namingCategory grammar missing atIndex (alike _ _ _)
    · intro disregarded calls id nouns
      rw [text_wrapped _ _ _ scalars]
      intro body _ content argument fallback variants _
      rw [Context.chosenPhrase, Context.phraseKey,
        pluralKey_of_disregards_all _ nouns items argument _ disregarded]
      rfl

theorem text_wrapped_five :
    (∀ item ∈ [Value.integer 5], item.isScalar = true) ∧
      (Grammar.ofLocale {} none).Disregards (.integer 5) ∧
      ((namingCategory (.ofLocale {} none) "MISSING" 0).text (.text "category") .null
        (.wrapped [.integer 5])).outcome =
      ((namingCategory (.ofLocale {} none) "MISSING" 0).text (.text "category") .null
        (.list [.integer 5])).outcome := by
  have scalars : ∀ item ∈ [Value.integer 5], item.isScalar = true := by decide +kernel
  have disregarded : (Grammar.ofLocale {} none).Disregards (.integer 5) :=
    ⟨rfl, by decide +kernel⟩
  refine ⟨scalars, disregarded, ?_⟩
  refine ((text_wrapped_iff scalars).2.2 (.ofLocale {} none) "MISSING").mpr ?_ _ _ _
  intro item present
  rw [List.mem_singleton.mp present]
  exact disregarded

/-- English sorts the number one apart, but not when it is wrapped. -/
theorem text_wrapped_one :
    ((namingCategory (.ofLocale {} none) "MISSING" 0).text (.text "category") .null
        (.list [.integer 1])).outcome = .ok "one" ∧
      ((namingCategory (.ofLocale {} none) "MISSING" 0).text (.text "category") .null
        (.wrapped [.integer 1])).outcome = .ok "other" := by
  decide +kernel

end Localizer
end Concord
