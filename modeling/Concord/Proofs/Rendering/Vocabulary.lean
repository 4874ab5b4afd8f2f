import Concord.Proofs.Catalog.History
import Concord.Proofs.Rendering.Neighbourhood
import Concord.Proofs.Rendering.StaticNouns

/-!
# The vocabulary of a label

A body looks up nothing but the names that it mentions: those of its nouns and
modifiers at any depth, and those that the caller gives for nouns.  Catalogs
that file the same words under these names render it alike, whatever else they
hold.  Further data can therefore change the text of a label only by giving the
label another body or by filing a word under one of these names.
-/

namespace Concord

/-- A name in a body, at any depth, or one that the caller gives for a noun. -/
inductive Body.Mentions (nouns : Value) (body : Body) : String -> Prop
  | written {content : List Segment} {term : Term} {name : String}
      (held : body.Holds content term)
      (named : term.name? = some name) :
      Mentions nouns body name
  | given {index : Int} {name : String}
      (named : nouns.nounNameAt index = some name) :
      Mentions nouns body name

/-- A list of nouns gives no names but those of its elements. -/
theorem Value.exists_mem_of_nounNameAt
    {nouns : List Value}
    {index : Int}
    {name : String}
    (named : (Value.list nouns).nounNameAt index = some name) :
    ∃ noun ∈ nouns, Context.givenName? noun = some name := by
  have looked : (Value.list nouns).entryAt (some index) =
      .ok (((Value.list nouns).entryAt? index).getD .null) := rfl
  rw [nounNameAt, looked] at named
  cases found : (Value.list nouns).entryAt? index with
  | none =>
      rw [found] at named
      cases named
  | some noun =>
      rw [found] at named
      refine ⟨noun, ?_, named⟩
      rw [entryAt?] at found
      split at found
      · cases found
      · exact List.mem_of_getElem? found

/-- The kinds of words that are looked up by name. -/
def TermKind.words : List TermKind :=
  [.noun, .adjective, .article]

theorem ModifierKind.toTermKind_mem_words (kind : ModifierKind) :
    kind.toTermKind ∈ TermKind.words := by
  cases kind <;> decide

/-- Two catalogs file the same noun, adjective and article under a name, or none. -/
def Catalog.FilesAlike (catalog other : Catalog) (name : String) : Prop :=
  ∀ kind ∈ TermKind.words, other.lexeme? kind name = catalog.lexeme? kind name

instance decidableFilesAlike (catalog other : Catalog) (name : String) :
    Decidable (catalog.FilesAlike other name) :=
  inferInstanceAs (Decidable (∀ kind ∈ TermKind.words, _ = _))

namespace Context

/-- The same context with another catalog. -/
def withCatalog (context : Context) (catalog : Catalog) : Context :=
  { context with catalog := catalog }

theorem grammar_withCatalog (context : Context) (catalog : Catalog) :
    (context.withCatalog catalog).grammar = context.grammar := rfl

variable {context : Context} {catalog : Catalog} {body : Body} {content : List Segment}

/-- A term finds a noun by a name that its body mentions. -/
theorem mentions_of_nounName?
    {term : Term}
    {name : String}
    (held : body.Holds content term)
    (named : context.nounName? term = .ok (some name)) :
    body.Mentions context.nouns name := by
  unfold nounName? at named
  split at named
  · have ownName := Except.ok.inj named
    exact .written held (Option.filter_eq_some_iff.mp ownName).1
  · have ownName := Except.ok.inj named
    exact .written held (Option.filter_eq_some_iff.mp ownName).1
  · rename_i index _ _
    have given : context.nouns.nounNameAt index = some name := by
      rw [Value.nounNameAt]
      cases looked : context.nouns.entryAt (some index) with
      | error error => simp [looked, Except.map] at named
      | ok value => simpa [looked, Except.map, Except.toOption] using named
    exact .given given

section

variable (filed : ∀ name, body.Mentions context.nouns name ->
  context.catalog.FilesAlike catalog name)

include filed

/-- A term finds the same noun in both catalogs. -/
theorem nounOfTerm_withCatalog
    {term : Term}
    (held : body.Holds content term) :
    (context.withCatalog catalog).nounOfTerm term = context.nounOfTerm term := by
  have sameName : (context.withCatalog catalog).nounName? term = context.nounName? term := rfl
  rw [nounOfTerm, nounOfTerm, sameName]
  cases named : context.nounName? term with
  | error error => rfl
  | ok name =>
      cases name with
      | none => rfl
      | some name =>
          have sameNoun := filed name (mentions_of_nounName? held named) .noun (by decide)
          exact congrArg Except.ok sameNoun

theorem modifierOf_withCatalog
    {ref : ModifierTerm}
    (held : body.Holds content (.modifier ref)) :
    (context.withCatalog catalog).modifierOf ref = context.modifierOf ref := by
  rw [modifierOf, modifierOf]
  cases named : ref.name with
  | none => rfl
  | some name =>
      exact filed name (.written held named) ref.kind.toTermKind ref.kind.toTermKind_mem_words

/-- A term sees the same in both catalogs. -/
theorem seesAlike_withCatalog
    {term : Term}
    (held : body.Holds content term) :
    context.SeesAlike (context.withCatalog catalog) .keep content term := by
  apply seesAlike_of_looksAlike
  · apply sameByItself_mapWords WordMap.keep_changesNames (context.grammar_withCatalog catalog)
    · rintro ref rfl
      exact nounOfTerm_withCatalog filed held
    · rintro ref rfl
      exact modifierOf_withCatalog filed held
    · exact fun _ _ _ _ _ => rfl
  · intro segment present
    apply looksAlike_mapWords WordMap.keep_changesNames
    · rintro sibling rfl
      rw [Term.mapWords_keep_eq]
      exact nounOfTerm_withCatalog filed (held.sibling present)
    · rintro ref rfl
      exact modifierOf_withCatalog filed (held.sibling present)

/-- Catalogs that file the same words under the names mentioned render a body alike. -/
theorem bodyText_withCatalog :
    (context.withCatalog catalog).bodyText body = context.bodyText body := by
  symm
  apply bodyText_eq_of_seesAlike_keep (context.grammar_withCatalog catalog)
  intro content term reached
  exact seesAlike_withCatalog filed (holds_of_reaches reached)

end

end Context

/-! ## Merging further data -/

namespace CatalogChange

/-- Changes that file nothing under a name leave its last lexeme. -/
theorem lastLexeme?_append_of_none
    {kind : TermKind}
    {name : String}
    {later : List CatalogChange}
    (unfiled : ∀ change ∈ later, change.lexemeFor? kind name = none)
    (changes : List CatalogChange) :
    lastLexeme? kind name (changes ++ later) = lastLexeme? kind name changes := by
  have nothing : later.filterMap (lexemeFor? kind name) = [] :=
    List.filterMap_eq_nil_iff.mpr unfiled
  rw [lastLexeme?, lastLexeme?, List.filterMap_append, nothing, List.append_nil]

theorem lastBody?_append_of_none
    {name : String}
    {later : List CatalogChange}
    (unlabelled : ∀ change ∈ later, change.bodyFor? name = none)
    (changes : List CatalogChange) :
    lastBody? name (changes ++ later) = lastBody? name changes := by
  have nothing : later.filterMap (bodyFor? name) = [] :=
    List.filterMap_eq_nil_iff.mpr unlabelled
  rw [lastBody?, lastBody?, List.filterMap_append, nothing, List.append_nil]

end CatalogChange

namespace MergeCall

variable (calls : List MergeCall) {later : List MergeCall}

/-- The calls file no word under a name. -/
def FileNothingUnder (calls : List MergeCall) (name : String) : Prop :=
  ∀ change ∈ history calls, ∀ kind ∈ TermKind.words, change.lexemeFor? kind name = none

instance decidableFileNothingUnder (calls : List MergeCall) (name : String) :
    Decidable (FileNothingUnder calls name) :=
  inferInstanceAs (Decidable (∀ change ∈ history calls, ∀ kind ∈ TermKind.words, _ = _))

/-- The calls give no body to a label. -/
def LeaveLabel (calls : List MergeCall) (name : String) : Prop :=
  ∀ change ∈ history calls, change.bodyFor? name = none

instance decidableLeaveLabel (calls : List MergeCall) (name : String) :
    Decidable (LeaveLabel calls name) :=
  inferInstanceAs (Decidable (∀ change ∈ history calls, _ = none))

theorem history_append (calls later : List MergeCall) :
    history (calls ++ later) = history calls ++ history later := by
  rw [history, history, history, List.flatMap_append]

/-- Calls that file nothing under a name leave what is found there. -/
theorem filesAlike_catalogAfter_append
    {name : String}
    (unfiled : FileNothingUnder later name) :
    (catalogAfter calls).FilesAlike (catalogAfter (calls ++ later)) name := by
  intro kind isWord
  rw [lexeme?_catalogAfter, lexeme?_catalogAfter, history_append]
  apply CatalogChange.lastLexeme?_append_of_none
  intro change present
  exact unfiled change present kind isWord

/-- Calls that leave a label alone do not change its body. -/
theorem label?_catalogAfter_append
    {name : String}
    (left : LeaveLabel later name) :
    (catalogAfter (calls ++ later)).label? name = (catalogAfter calls).label? name := by
  rw [label?_catalogAfter, label?_catalogAfter, history_append]
  exact CatalogChange.lastBody?_append_of_none left (history calls)

end MergeCall

namespace Localizer

theorem label?_of_usableLabel
    {localizer : Localizer}
    {id : Value}
    {name : String}
    {body : Body}
    (written : id.written = .ok name)
    (usable : localizer.usableLabel id = .ok (some body)) :
    localizer.catalog.label? name = some body := by
  rw [usableLabel, Catalog.labelUnder_of_written _ written] at usable
  exact (Option.filter_eq_some_iff.mp (Except.ok.inj usable)).1

/--
Further data changes the text of a label only if it gives the label another body
or files a word under a name that its body or the caller mentions.
-/
theorem text_catalogAfter_append
    (grammar : Grammar)
    (missing : String)
    (calls : List MergeCall)
    {later : List MergeCall}
    {id : Value}
    {name : String}
    (nouns arguments : Value)
    (written : id.written = .ok name)
    (left : MergeCall.LeaveLabel later name)
    (unfiled : ∀ body, (MergeCall.catalogAfter calls).label? name = some body ->
      ∀ word, body.Mentions nouns word -> MergeCall.FileNothingUnder later word) :
    (Localizer.mk (MergeCall.catalogAfter (calls ++ later)) grammar missing).text
        id nouns arguments =
      (Localizer.mk (MergeCall.catalogAfter calls) grammar missing).text id nouns arguments := by
  have sameUnfilled :
      (Localizer.mk (MergeCall.catalogAfter (calls ++ later)) grammar missing).unfilledText
          id nouns arguments =
        (Localizer.mk (MergeCall.catalogAfter calls) grammar missing).unfilledText
          id nouns arguments := by
    apply unfilledText_congr
    · rfl
    · rw [usableLabel, usableLabel, Catalog.labelUnder_of_written _ written,
        Catalog.labelUnder_of_written _ written, MergeCall.label?_catalogAfter_append calls left]
    · intro body usable
      have labelled := label?_of_usableLabel written usable
      apply @Context.bodyText_withCatalog
        ⟨MergeCall.catalogAfter calls, grammar, nouns, arguments⟩
      intro word mentioned
      exact MergeCall.filesAlike_catalogAfter_append calls (unfiled body labelled word mentioned)
  rw [text, text, sameUnfilled]

/--
A body depends on a catalog only through the words filed under the names that it
or the caller mentions.  Hence calls that merge further data change the text of
a label only if they give the label another body or file a word under such a
name; opening a table changes nothing.
-/
theorem text_depends_on_vocabulary (grammar : Grammar) (nouns arguments : Value) :
    (∀ (body : Body) (catalog other : Catalog),
      (∀ name, body.Mentions nouns name -> catalog.FilesAlike other name) ->
        (Context.mk other grammar nouns arguments).bodyText body =
          (Context.mk catalog grammar nouns arguments).bodyText body) ∧
      ∀ (missing : String) (calls later : List MergeCall) (id : Value) (name : String),
        id.written = .ok name ->
        MergeCall.LeaveLabel later name ->
        (∀ body, (MergeCall.catalogAfter calls).label? name = some body ->
          ∀ word, body.Mentions nouns word -> MergeCall.FileNothingUnder later word) ->
          (Localizer.mk (MergeCall.catalogAfter (calls ++ later)) grammar missing).text
              id nouns arguments =
            (Localizer.mk (MergeCall.catalogAfter calls) grammar missing).text
              id nouns arguments := by
  constructor
  · intro body catalog other filed
    exact @Context.bodyText_withCatalog ⟨catalog, grammar, nouns, arguments⟩ other body filed
  · intro missing calls later id name written left unfiled
    exact text_catalogAfter_append grammar missing calls nouns arguments written left unfiled

/-- A label with an article and a noun of the caller, in a dictionary without any adjectives. -/
def pickedFruit : List MergeCall :=
  [.bundle (.map [
    (.text "terms", .map [
      (.text "n", .map [(.text "apple", .map [(.text "s", .text "v"),
        (.text "v", .map [(.text "s", .text "Apple")])])]),
      (.text "d", .map [(.text "a", .map [
        (.text "v", .map [(.text "0-c", .text "a"), (.text "0-v", .text "an")])])])]),
    (.text "labels", .map [
      (.text "pick", .list [
        .map [(.text "t", .text "d"), (.text "l", .text "A"), (.text "f", .text "0-"),
          (.text "an", .integer 2)],
        .text " ",
        .map [(.text "t", .text "n"), (.text "i", .integer 0), (.text "f", .text "s")]])])])]

/-- The body of this label. -/
def pickedBody : Body :=
  .segments [
    .term (.modifier ⟨.article, some "A", some "0-", false, some 2, none⟩),
    .text " ",
    .term (.noun ⟨none, some "s", false, some 0⟩)]

/--
A bundle with the first adjective, another noun and another label, and a merge
that fails before it comes to the noun of the label.
-/
def moreFruit : List MergeCall :=
  [.bundle (.map [
    (.text "terms", .map [
      (.text "a", .map [(.text "red", .map [])]),
      (.text "n", .map [(.text "apples", .map [(.text "v", .map [(.text "s", .text "Pear")])])])]),
    (.text "labels", .map [(.text "Pick", .text "")])]),
  .lexemes (.map [(.text "n", .map [(.text "pear", .integer 3), (.text "Apple", .map [])])])]

theorem label?_pickedFruit :
    (MergeCall.catalogAfter pickedFruit).label? "pick" = some pickedBody := rfl

/-- The label mentions its article and what the caller names. -/
theorem mentions_pickedBody
    {word : String}
    (mentioned : pickedBody.Mentions (.list [.text "APPLE"]) word) :
    word = "A" ∨ word = "APPLE" := by
  cases mentioned with
  | written held named =>
      simp [pickedBody, Body.reaches_segments, Term.phrases] at held
      rcases held with ⟨rfl, rfl | rfl⟩
      · exact .inl (Option.some.inj named).symm
      · cases named
  | given named =>
      obtain ⟨noun, present, gives⟩ := Value.exists_mem_of_nounNameAt named
      obtain rfl := List.mem_singleton.mp present
      exact .inr (Option.some.inj gives).symm

theorem text_depends_on_vocabulary_pickedFruit :
    (∀ name, pickedBody.Mentions (.list [.text "APPLE"]) name ->
        (MergeCall.catalogAfter pickedFruit).FilesAlike
          (MergeCall.catalogAfter (pickedFruit ++ moreFruit)) name) ∧
      (Value.text "pick").written = .ok "pick" ∧
      MergeCall.LeaveLabel moreFruit "pick" ∧
      (∀ body, (MergeCall.catalogAfter pickedFruit).label? "pick" = some body ->
        ∀ word, body.Mentions (.list [.text "APPLE"]) word ->
          MergeCall.FileNothingUnder moreFruit word) ∧
      (MergeCall.catalogAfter pickedFruit).hasTable .adjective = false ∧
      (MergeCall.catalogAfter (pickedFruit ++ moreFruit)).hasTable .adjective = true ∧
      ((Localizer.mk (MergeCall.catalogAfter (pickedFruit ++ moreFruit)) (.ofLocale {} none)
        "MISSING").text (.text "pick") (.list [.text "APPLE"]) .null).outcome =
          .ok "an apple" := by
  have filed : ∀ name, pickedBody.Mentions (.list [.text "APPLE"]) name ->
      (MergeCall.catalogAfter pickedFruit).FilesAlike
        (MergeCall.catalogAfter (pickedFruit ++ moreFruit)) name := by
    intro name mentioned
    rcases mentions_pickedBody mentioned with rfl | rfl <;> decide +kernel
  have left : MergeCall.LeaveLabel moreFruit "pick" := by decide +kernel
  have unfiled : ∀ body, (MergeCall.catalogAfter pickedFruit).label? "pick" = some body ->
      ∀ word, body.Mentions (.list [.text "APPLE"]) word ->
        MergeCall.FileNothingUnder moreFruit word := by
    intro body labelled word mentioned
    obtain rfl := Option.some.inj (labelled.symm.trans label?_pickedFruit)
    rcases mentions_pickedBody mentioned with rfl | rfl <;> decide +kernel
  have depends := text_depends_on_vocabulary (.ofLocale {} none) (.list [.text "APPLE"]) .null
  refine ⟨filed, rfl, left, unfiled, by decide +kernel, by decide +kernel, ?_⟩
  rw [depends.2 "MISSING" pickedFruit moreFruit (.text "pick") "pick" rfl left unfiled]
  decide +kernel

end Localizer
end Concord
