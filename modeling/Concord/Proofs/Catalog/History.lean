import Concord.Proofs.Catalog.Explain

/-!
# The history of a catalog

The changes of a call that merges data are its history.  Every answer of a
catalog is determined by the joint history of the calls before it: a look-up
gives what the last change under the same key wrote, whichever calls failed.
-/

namespace Concord

/-- A call that merges data into a catalog. -/
inductive MergeCall
  | lexemes (data : Value)
  | labels (data : Value)
  | bundle (data : Value)

namespace MergeCall

/-- What a call does to a catalog. -/
def run (catalog : Catalog) : MergeCall -> Merge
  | .lexemes data => catalog.addLexemes data
  | .labels data => catalog.addLabels data
  | .bundle data => catalog.addBundle data

/-- The steps of a call. -/
def steps : MergeCall -> List MergeStep
  | .lexemes data => MergeStep.ofLexemes data
  | .labels data => MergeStep.ofLabels data
  | .bundle data => MergeStep.ofBundle data

/-- The changes of a call, which end before its first failure. -/
def changes (call : MergeCall) : List CatalogChange :=
  MergeStep.changesBeforeFailure call.steps

/-- The catalog after some calls, the failing ones included. -/
def catalogAfter (calls : List MergeCall) : Catalog :=
  calls.foldl (fun catalog call => (call.run catalog).catalog) Catalog.empty

/-- The changes of some calls in order. -/
def history (calls : List MergeCall) : List CatalogChange :=
  calls.flatMap changes

/-- A call does what its steps say. -/
theorem explain_run (call : MergeCall) (catalog : Catalog) :
    MergeStep.Explain call.steps catalog (call.run catalog).outcome := by
  cases call with
  | lexemes data => exact MergeStep.explain_addLexemes catalog data
  | labels data => exact MergeStep.explain_addLabels catalog data
  | bundle data => exact MergeStep.explain_addBundle catalog data

/-- A call writes its changes and nothing else. -/
theorem catalog_run (call : MergeCall) (catalog : Catalog) :
    (call.run catalog).catalog = CatalogChange.applyAllTo catalog call.changes :=
  (call.explain_run catalog).catalog_eq

/-- A call fails as the first of its steps that fails. -/
theorem failure_run (call : MergeCall) (catalog : Catalog) :
    (call.run catalog).failure = MergeStep.firstFailure? call.steps := by
  rw [← (call.explain_run catalog).failure_eq, Merge.outcome]
  cases (call.run catalog).failure <;> rfl

/-- The catalog after some calls is made of their changes alone. -/
theorem catalogAfter_eq (calls : List MergeCall) :
    catalogAfter calls = CatalogChange.applyAllTo Catalog.empty (history calls) := by
  unfold catalogAfter history CatalogChange.applyAllTo
  rw [List.foldl_flatMap]
  congr 1
  funext catalog call
  exact call.catalog_run catalog

theorem openFirst_steps (call : MergeCall) : MergeStep.OpenFirst call.steps := by
  cases call with
  | lexemes data => exact MergeStep.openFirst_ofLexemes data
  | labels data => exact MergeStep.openFirst_ofLabels data
  | bundle data => exact MergeStep.openFirst_ofBundle data

/-- A table is there exactly when some call has opened it. -/
theorem hasTable_catalogAfter (calls : List MergeCall) (kind : TermKind) :
    (catalogAfter calls).hasTable kind = (history calls).any (CatalogChange.opens kind) := by
  rw [catalogAfter_eq, CatalogChange.hasTable_applyAllTo, history, List.any_flatMap,
    List.any_flatMap]
  have opensFirst : (fun call : MergeCall => call.changes.any (CatalogChange.concerns kind)) =
      fun call => call.changes.any (CatalogChange.opens kind) := by
    funext call
    exact call.openFirst_steps kind
  rw [opensFirst]
  simp [Catalog.empty, Catalog.hasTable]

/-- After some calls a name shows the lexeme that they filed last under its key. -/
theorem lexeme?_catalogAfter (calls : List MergeCall) (kind : TermKind) (name : String) :
    (catalogAfter calls).lexeme? kind name =
      CatalogChange.lastLexeme? kind name (history calls) := by
  rw [catalogAfter_eq, CatalogChange.lexeme?_applyAllTo]
  simp [Catalog.empty, Catalog.lexeme?, Catalog.tableOf]

theorem label?_catalogAfter (calls : List MergeCall) (id : String) :
    (catalogAfter calls).label? id = CatalogChange.lastBody? id (history calls) := by
  rw [catalogAfter_eq, CatalogChange.label?_applyAllTo]
  simp [Catalog.empty, Catalog.label?]

theorem isEmpty_labels_catalogAfter (calls : List MergeCall) :
    (catalogAfter calls).labels.isEmpty = !(history calls).any CatalogChange.isLabel := by
  rw [catalogAfter_eq, CatalogChange.isEmpty_labels_applyAllTo]
  simp [Catalog.empty]

end MergeCall

namespace Catalog

/-- Nothing is filed in a table that has not been opened. -/
theorem lexeme?_of_not_hasTable
    {catalog : Catalog}
    {kind : TermKind}
    (closed : catalog.hasTable kind = false)
    (name : String) :
    catalog.lexeme? kind name = none := by
  have noTable : catalog.tables.get? kind = none := by simpa [hasTable] using closed
  simp [lexeme?, tableOf, noTable]

/-- A value is looked up under the name that it stands for. -/
theorem find_of_nameOf
    (catalog : Catalog)
    {kindName key : Value}
    {kind : TermKind}
    {name : String}
    (named : TermKind.named? kindName = some kind)
    (present : key ≠ .null)
    (written : nameOf key = .ok name) :
    catalog.find kindName key = .ok (catalog.lexeme? kind name) := by
  have kindFound : kindOf kindName = .ok (some kind) := by simp [kindOf, TermKind.ofValue, named]
  have looked : catalog.lexemeUnder kind key = .ok (catalog.lexeme? kind name) := by
    rw [lexemeUnder, written]
    cases opened : catalog.hasTable kind with
    | true => rfl
    | false => simp [lexeme?_of_not_hasTable opened]
  rw [← looked]
  cases key with
  | null => exact absurd rfl present
  | _ => simp [find, kindFound, bind, Except.bind]

/-- A value that cannot be written is an error where there is a table to look it up in. -/
theorem find_of_unwritten
    (catalog : Catalog)
    {kindName key : Value}
    {kind : TermKind}
    {error : NumberError}
    (named : TermKind.named? kindName = some kind)
    (unwritten : nameOf key = .error error) :
    catalog.find kindName key = if catalog.hasTable kind then .error error else .ok none := by
  have kindFound : kindOf kindName = .ok (some kind) := by simp [kindOf, TermKind.ofValue, named]
  cases key with
  | null => cases unwritten
  | _ => simp [find, kindFound, lexemeUnder, unwritten, bind, Except.bind, Except.map]

theorem labelUnder_of_written
    (catalog : Catalog)
    {id : Value}
    {name : String}
    (written : id.written = .ok name) :
    catalog.labelUnder id = .ok (catalog.label? name) := by
  rw [labelUnder, written]
  cases labels_eq : catalog.labels with
  | nil => simp [label?, labels_eq]
  | cons entry rest => rfl

/--
A catalog answers from some changes: every look-up gives what the last change
under the same key wrote, and it fails only on a key that cannot be written,
once there is something to look it up in.
-/
structure AnswersFrom (catalog : Catalog) (changes : List CatalogChange) : Prop where
  /-- A name that can be written has the lexeme that was last filed under its key. -/
  lexeme : ∀ kindName kind key name,
    TermKind.named? kindName = some kind -> key ≠ .null -> nameOf key = .ok name ->
      catalog.find kindName key = .ok (CatalogChange.lastLexeme? kind name changes)
  /-- A name that cannot be written is an error where its table is open, else unknown. -/
  unwrittenLexeme : ∀ kindName kind key error,
    TermKind.named? kindName = some kind -> nameOf key = .error error ->
      catalog.find kindName key =
        if changes.any (CatalogChange.opens kind) then .error error else .ok none
  /-- A label whose name can be written has the body that it was last given. -/
  body : ∀ id name, id.written = .ok name ->
    catalog.labelUnder id = .ok (CatalogChange.lastBody? name changes)
  /-- A label name that cannot be written is an error once there are labels, else unknown. -/
  unwrittenBody : ∀ id error, id.written = .error error ->
    catalog.labelUnder id = if changes.any CatalogChange.isLabel then .error error else .ok none
  /-- The table of a kind is open exactly if some change has opened it. -/
  table : ∀ kind, catalog.hasTable kind = changes.any (CatalogChange.opens kind)

end Catalog

namespace MergeCall

/-- After any calls the catalog answers from their changes. -/
theorem answersFrom_history (calls : List MergeCall) :
    (catalogAfter calls).AnswersFrom (history calls) where
  lexeme kindName kind key name named present written := by
    rw [Catalog.find_of_nameOf _ named present written, lexeme?_catalogAfter]
  unwrittenLexeme kindName kind key error named unwritten := by
    rw [Catalog.find_of_unwritten _ named unwritten, hasTable_catalogAfter]
  body id name written := by
    rw [Catalog.labelUnder_of_written _ written, label?_catalogAfter]
  unwrittenBody id error unwritten := by
    rw [Catalog.labelUnder, isEmpty_labels_catalogAfter, unwritten]
    cases (history calls).any CatalogChange.isLabel <;> rfl
  table kind := hasTable_catalogAfter calls kind

/--
A call stops at its first failure: it writes the changes of the steps before
the one that fails and none of a later step.
-/
structure StopsAtFirstFailure (call : MergeCall) (catalog : Catalog) : Prop where
  /-- The call writes its changes and nothing else. -/
  writes : (call.run catalog).catalog = CatalogChange.applyAllTo catalog call.changes
  /-- The changes of a call without failure are those of all its steps. -/
  completed : (call.run catalog).failure = none ->
    call.steps.map MergeStep.change = call.changes.map .ok
  /-- The changes of a call that fails are those of the steps before the one that fails. -/
  stopped : ∀ failure, (call.run catalog).failure = some failure ->
    ∃ before step after, call.steps = before ++ step :: after ∧
      before.map MergeStep.change = call.changes.map .ok ∧
      step.change = .error failure

/-- Every call, on every catalog, stops at its first failure. -/
theorem stopsAtFirstFailure (call : MergeCall) (catalog : Catalog) :
    call.StopsAtFirstFailure catalog where
  writes := call.catalog_run catalog
  completed noFailure := by
    rw [failure_run] at noFailure
    exact MergeStep.map_change_of_firstFailure?_none noFailure
  stopped failure failed := by
    rw [failure_run] at failed
    exact MergeStep.split_of_firstFailure?_some failed

/--
After any calls a catalog answers from their joint history, to which each call
adds its steps before the first failure: those of a bundle are its lexemes
before its labels, and one of the wrong shape adds nothing.
-/
theorem catalog_answers_from_history (calls : List MergeCall) :
    (catalogAfter calls).AnswersFrom (history calls) ∧
      (∀ (call : MergeCall) (catalog : Catalog), call.StopsAtFirstFailure catalog) ∧
      (∀ data lexemes labels, Catalog.sections data = .ok (lexemes, labels) ->
        (bundle data).steps =
          (MergeCall.lexemes lexemes).steps ++ (MergeCall.labels labels).steps) ∧
      ∀ data fault, Catalog.sections data = .error fault -> (bundle data).changes = [] := by
  refine ⟨answersFrom_history calls, stopsAtFirstFailure, ?_, ?_⟩
  · intro data lexemes labels shape
    simp [steps, MergeStep.ofBundle, shape]
  · intro data fault shape
    simp [changes, steps, MergeStep.ofBundle, shape, MergeStep.changesBeforeFailure,
      MergeStep.change]

/--
Two calls, the first of which fails at its second lexeme, and the second of
which opens a table that holds nothing and gives one label two bodies.
-/
def interruptedCalls : List MergeCall :=
  [.lexemes (.map [(.text "n", .map [(.text "Account", .map [(.text "l", .text "konto")]),
      (.text "contact", .integer 3), (.text "ACCOUNT", .map [])])]),
    .bundle (.map [(.text "terms", .map [(.text "d", .null)]),
      (.text "labels", .map [(.integer 7, .text "one"), (.text "7", .text "two")])])]

theorem catalog_answers_from_interruptedCalls :
    TermKind.named? (.text "n") = some .noun ∧
      Value.text "aCCount" ≠ .null ∧
      Catalog.nameOf (.text "aCCount") = .ok "aCCount" ∧
      (catalogAfter interruptedCalls).find (.text "n") (.text "aCCount") =
        .ok (some ⟨some "konto", [], none, .noun none none⟩) ∧
      (catalogAfter interruptedCalls).hasTable .article = true := by
  have answers := (catalog_answers_from_history interruptedCalls).1
  have last : CatalogChange.lastLexeme? .noun "aCCount" (history interruptedCalls) =
      some ⟨some "konto", [], none, .noun none none⟩ := by
    decide +kernel
  have opened : (history interruptedCalls).any (CatalogChange.opens .article) = true := by
    decide +kernel
  refine ⟨rfl, by simp, rfl, ?_, ?_⟩
  · rw [answers.lexeme (.text "n") .noun (.text "aCCount") "aCCount" rfl (by simp) rfl, last]
  · rw [answers.table .article, opened]

end MergeCall
end Concord
