import Concord.Proofs.Catalog.History
import Concord.Proofs.Rendering.Neighbourhood
import Concord.Proofs.Text.Folding

/-!
# Letter case of names

Nouns and modifiers are filed under the folding of their names, and a folding
folds to itself.  A body whose names are folded, at any depth, therefore renders
as the body itself does, and also where the nouns of the caller are folded.
Hence bodies and nouns that differ in the letter case of names alone render
alike.
-/

namespace Concord

/-- Fold the names of nouns and modifiers. -/
def WordMap.caseFolded : WordMap where
  noun ref := { ref with name := ref.name.map Text.caseFolded }
  modifier ref := { ref with name := ref.name.map Text.caseFolded }

theorem WordMap.caseFolded_changesNames : WordMap.caseFolded.ChangesNames where
  noun ref := ⟨ref.name.map Text.caseFolded, rfl⟩
  modifier ref := ⟨ref.name.map Text.caseFolded, rfl⟩

/-- A body with the names of its nouns and modifiers folded, at any depth. -/
def Body.caseFolded (body : Body) : Body :=
  body.mapWords .caseFolded

namespace Value

/-- Change what a collection holds and leave it at its positions. -/
def mapItems (change : Value -> Value) : Value -> Value
  | .list items => .list (items.map change)
  | .tuple items => .tuple (items.map change)
  | .map entries => .map (entries.map fun entry => (entry.1, change entry.2))
  | value => value

theorem find?_map_snd (change : Value -> Value) (entries : List (Value × Value)) (key : Value) :
    find? (entries.map fun entry => (entry.1, change entry.2)) key =
      (find? entries key).map change := by
  rw [find?, List.find?_map, find?, Option.map_map, Option.map_map]
  rfl

/-- A change of all items is a change of the one that is looked up. -/
theorem entryAt?_mapItems (change : Value -> Value) (values : Value) (position : Int) :
    (values.mapItems change).entryAt? position = (values.entryAt? position).map change := by
  cases values with
  | list items | tuple items =>
      rw [mapItems, entryAt?, entryAt?]
      split
      · rfl
      · exact List.getElem?_map
  | map entries =>
      rw [mapItems, entryAt?, entryAt?, numbered?, numbered?, find?_map_snd, find?_map_snd,
        Option.map_or]
  | _ => rfl

theorem needsLongDigits_mapItems (change : Value -> Value) (values : Value) (position : Int) :
    (values.mapItems change).needsLongDigits position = values.needsLongDigits position := by
  cases values with
  | map entries => rw [mapItems, needsLongDigits, needsLongDigits, find?_map_snd, Option.isNone_map]
  | _ => rfl

/-- A change that keeps the absent value is a change of what is looked up. -/
theorem entryAt_mapItems
    {change : Value -> Value}
    (keepsNull : change .null = .null)
    (values : Value)
    (position : Int) :
    (values.mapItems change).entryAt (some position) =
      (values.entryAt (some position)).map change := by
  rw [entryAt, entryAt, needsLongDigits_mapItems, entryAt?_mapItems]
  split
  · rfl
  · cases values.entryAt? position with
    | none => simp [Except.map, keepsNull]
    | some value => rfl

/-- A text folded; what is no text stays. -/
def caseFolded : Value -> Value
  | .text name => .text (Text.caseFolded name)
  | value => value

/-- Nouns of the caller with the texts among them folded. -/
def nounsFolded (nouns : Value) : Value :=
  nouns.mapItems caseFolded

theorem nounsFolded_ne_null
    {nouns : Value}
    (given : nouns ≠ .null) :
    nouns.nounsFolded ≠ .null := by
  intro absent
  cases nouns with
  | null => exact given rfl
  | _ => cases absent

/-- A list of names is folded name by name. -/
theorem nounsFolded_texts (names : List String) :
    (Value.list (names.map .text)).nounsFolded =
      .list ((names.map Text.caseFolded).map .text) := by
  rw [nounsFolded, mapItems, List.map_map, List.map_map]
  rfl

end Value

theorem ModifierKind.ignoresCase (kind : ModifierKind) : kind.toTermKind.ignoresCase = true := by
  cases kind <;> rfl

/-- Where letter case is ignored, a name and its folding find the same lexeme. -/
theorem Catalog.lexeme?_caseFolded
    (catalog : Catalog)
    {kind : TermKind}
    (ignores : kind.ignoresCase = true)
    (name : String) :
    catalog.lexeme? kind (Text.caseFolded name) = catalog.lexeme? kind name := by
  simp [lexeme?, filingKey, ignores]

theorem TermKind.ignoresCase_noun : TermKind.noun.ignoresCase = true := rfl

namespace Term

variable (term : Term)

theorem name?_mapWords_caseFolded :
    (term.mapWords .caseFolded).name? = term.name?.map Text.caseFolded := by
  cases term <;> rfl

theorem argument?_mapWords_caseFolded :
    (term.mapWords .caseFolded).argument? = term.argument? := by
  cases term <;> rfl

end Term

namespace Context

/-- The same context with the nouns of the caller folded. -/
def withNounsFolded (context : Context) : Context :=
  { context with nouns := context.nouns.nounsFolded }

variable (context : Context)

theorem catalog_withNounsFolded : context.withNounsFolded.catalog = context.catalog := rfl

theorem grammar_withNounsFolded : context.withNounsFolded.grammar = context.grammar := rfl

@[simp] theorem nouns_withNounsFolded :
    context.withNounsFolded.nouns = context.nouns.nounsFolded := rfl

/-- The folded name of a modifier finds the same word. -/
theorem modifierOf_caseFolded (ref : ModifierTerm) :
    context.withNounsFolded.modifierOf (WordMap.caseFolded.modifier ref) =
      context.modifierOf ref := by
  rw [modifierOf, modifierOf, catalog_withNounsFolded]
  cases named : ref.name with
  | none => simp [WordMap.caseFolded, named]
  | some name =>
      have sameLexeme := context.catalog.lexeme?_caseFolded ref.kind.ignoresCase name
      simpa [WordMap.caseFolded, named] using sameLexeme

/-- A name of a term and its folding find the same noun; only the empty name folds to it. -/
theorem noun_of_ownName (name : Option String) :
    ((name.map Text.caseFolded).filter (· ≠ "")).bind (context.catalog.lexeme? .noun) =
      (name.filter (· ≠ "")).bind (context.catalog.lexeme? .noun) := by
  have sameNoun := context.catalog.lexeme?_caseFolded TermKind.ignoresCase_noun
  cases name with
  | none => rfl
  | some name => by_cases blank : name = "" <;> simp [Option.filter, blank, sameNoun]

/-- A noun of the caller and its folding name the same noun. -/
theorem noun_of_givenName? (value : Value) :
    (givenName? value.caseFolded).bind (context.catalog.lexeme? .noun) =
      (givenName? value).bind (context.catalog.lexeme? .noun) := by
  have sameNoun := context.catalog.lexeme?_caseFolded TermKind.ignoresCase_noun
  cases value with
  | text name =>
      by_cases blank : name = "" <;> simp [Value.caseFolded, givenName?, blank, sameNoun]
  | _ => rfl

/-- What the caller gives at a position names the same noun after it is folded. -/
theorem noun_at_nounsFolded (nouns : Value) (index : Int) :
    ((nouns.nounsFolded.entryAt (some index)).map givenName?).map
        (fun name => name.bind (context.catalog.lexeme? .noun)) =
      ((nouns.entryAt (some index)).map givenName?).map
        fun name => name.bind (context.catalog.lexeme? .noun) := by
  have keepsNull : Value.null.caseFolded = .null := rfl
  rw [Value.nounsFolded, Value.entryAt_mapItems keepsNull]
  cases nouns.entryAt (some index) with
  | error error => rfl
  | ok value => exact congrArg Except.ok (context.noun_of_givenName? value)

/-- A term finds the same noun by folded names, its own and the caller's. -/
theorem nounOfTerm_caseFolded (term : Term) :
    context.withNounsFolded.nounOfTerm (term.mapWords .caseFolded) = context.nounOfTerm term := by
  have ownNoun := congrArg (@Except.ok NumberError _) (context.noun_of_ownName term.name?)
  have sameArgument := term.argument?_mapWords_caseFolded
  unfold nounOfTerm
  cases asks : term.argument? with
  | none =>
      rw [nounName?_of_no_argument _ asks, nounName?_of_no_argument _ (sameArgument.trans asks),
        term.name?_mapWords_caseFolded]
      exact ownNoun
  | some index =>
      by_cases absent : context.nouns = .null
      · have absentFolded : context.withNounsFolded.nouns = .null := by
          rw [nouns_withNounsFolded, absent]
          rfl
        rw [nounName?_of_null absent, nounName?_of_null absentFolded,
          term.name?_mapWords_caseFolded]
        exact ownNoun
      · have given : context.withNounsFolded.nouns ≠ .null :=
          Value.nounsFolded_ne_null absent
        rw [nounName?_of_given asks absent, nounName?_of_given (sameArgument.trans asks) given]
        exact context.noun_at_nounsFolded context.nouns index

/-- A body renders as it does with its names and the nouns of the caller folded. -/
theorem bodyText_caseFolded (body : Body) :
    context.bodyText body = context.withNounsFolded.bodyText body.caseFolded := by
  apply bodyText_eq_of_seesAlike context.grammar_withNounsFolded
  have names := WordMap.caseFolded_changesNames
  intro content term _
  apply seesAlike_of_looksAlike
  · apply sameByItself_mapWords names context.grammar_withNounsFolded
    · exact fun ref _ => context.nounOfTerm_caseFolded (.noun ref)
    · exact fun ref _ => context.modifierOf_caseFolded ref
    · exact fun _ _ _ _ _ => rfl
  · intro segment _
    apply looksAlike_mapWords names
    · exact fun term _ => context.nounOfTerm_caseFolded term
    · exact fun ref _ => context.modifierOf_caseFolded ref

/--
Rendering ignores the letter case of names: if two bodies are the same once the
names in them are folded, at any depth, and the nouns that the caller gives
with them are the same once they are folded, then the bodies render alike.
-/
theorem bodyText_ignores_letterCase
    (catalog : Catalog)
    (grammar : Grammar)
    (arguments : Value)
    {body other : Body}
    {nouns others : List String}
    (sameBody : body.caseFolded = other.caseFolded)
    (sameNouns : nouns.map Text.caseFolded = others.map Text.caseFolded) :
    (Context.mk catalog grammar (.list (nouns.map .text)) arguments).bodyText body =
      (Context.mk catalog grammar (.list (others.map .text)) arguments).bodyText other := by
  rw [bodyText_caseFolded, bodyText_caseFolded _ other, sameBody]
  simp only [withNounsFolded, Value.nounsFolded_texts, sameNouns]

/-- Two nouns and an article, each with its forms. -/
def townWords : List MergeCall :=
  [.lexemes (.map [
    (.text "n", .map [
      (.text "Straße", .map [(.text "g", .text "f"),
        (.text "v", .map [(.text "s", .text "Straße")])]),
      (.text "Fluss", .map [(.text "g", .text "m"),
        (.text "v", .map [(.text "s", .text "Fluss")])])]),
    (.text "d", .map [
      (.text "der", .map [(.text "v", .map [(.text "f", .text "Die"), (.text "m", .text "Der")])])
    ])])]

/-- An article, a noun of the caller, and a second noun in a phrase that follows the first. -/
def townBody (article second : String) : Body :=
  .segments [
    .term (.modifier ⟨.article, some article, some "n", true, some 2, none⟩),
    .text " ",
    .term (.noun ⟨none, some "s", false, some 0⟩),
    .term (.gender (some 2) (.text "") [
      ("f", .segments [.text " und ", .term (.noun ⟨some second, some "s", false, none⟩)])])]

theorem townBody_caseFolded (article second : String) :
    (townBody article second).caseFolded =
      townBody (Text.caseFolded article) (Text.caseFolded second) := rfl

theorem bodyText_ignores_letterCase_strasse :
    (townBody "DER" "FLUSS").caseFolded = (townBody "der" "Fluß").caseFolded ∧
      ["STRASSE"].map Text.caseFolded = ["Straße"].map Text.caseFolded ∧
      ((Context.mk (MergeCall.catalogAfter townWords) (.ofLocale {} (some (.text "de")))
        (.list (["STRASSE"].map .text)) .null).bodyText (townBody "DER" "FLUSS")).outcome =
          .ok "Die Straße und Fluss" := by
  have sameBody : (townBody "DER" "FLUSS").caseFolded = (townBody "der" "Fluß").caseFolded := by
    have sameArticle : Text.caseFolded "DER" = Text.caseFolded "der" := by decide +kernel
    have sameNoun : Text.caseFolded "FLUSS" = Text.caseFolded "Fluß" := by decide +kernel
    rw [townBody_caseFolded, townBody_caseFolded, sameArticle, sameNoun]
  have sameNouns : ["STRASSE"].map Text.caseFolded = ["Straße"].map Text.caseFolded := by
    decide +kernel
  refine ⟨sameBody, sameNouns, ?_⟩
  rw [bodyText_ignores_letterCase _ _ _ sameBody sameNouns]
  decide +kernel

end Context
end Concord
