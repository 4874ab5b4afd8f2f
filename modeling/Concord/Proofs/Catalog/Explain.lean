import Concord.Proofs.Catalog.Step

/-!
# Merges follow their steps

A merge writes the changes of the steps before the first one that fails, and it
fails as that step does.
-/

namespace Concord

/-- The failure that an outcome ends in, if it does. -/
def MergeFailure.of? {α : Type} : Except MergeFailure α -> Option MergeFailure
  | .ok _ => none
  | .error failure => some failure

@[simp] theorem MergeFailure.of?_map {α β : Type}
    (f : α -> β)
    (outcome : Except MergeFailure α) :
    of? (outcome.map f) = of? outcome := by
  cases outcome <;> rfl

namespace MergeStep

/--
Some steps explain what an operation makes of a catalog: it writes their
changes up to the first failure, and it fails as that step does.
-/
structure Explain {α : Type} (steps : List MergeStep) (catalog : Catalog)
    (result : Catalog × Except MergeFailure α) : Prop where
  /-- The catalog holds the changes of the steps before the first one that fails. -/
  catalog_eq : result.1 = CatalogChange.applyAllTo catalog (changesBeforeFailure steps)
  /-- The failure, if any, is that of the first step that fails. -/
  failure_eq : MergeFailure.of? result.2 = firstFailure? steps

namespace Explain

variable {α : Type} {steps : List MergeStep} {step : MergeStep} {catalog : Catalog}

theorem nil (catalog : Catalog) (value : α) : Explain [] catalog (catalog, .ok value) :=
  ⟨rfl, rfl⟩

/-- A step that writes comes before the steps that explain the rest. -/
theorem cons
    {written : CatalogChange}
    {result : Catalog × Except MergeFailure α}
    (writes : step.change = .ok written)
    (explained : Explain steps (written.applyTo catalog) result) :
    Explain (step :: steps) catalog result where
  catalog_eq := by
    rw [explained.catalog_eq]
    simp [changesBeforeFailure, writes, CatalogChange.applyAllTo]
  failure_eq := by
    rw [explained.failure_eq]
    simp [firstFailure?, writes]

/-- A step that fails explains an operation that stops there, whatever steps follow. -/
theorem fail
    {failure : MergeFailure}
    (fails : step.change = .error failure) :
    Explain (α := α) (step :: steps) catalog (catalog, .error failure) where
  catalog_eq := by simp [changesBeforeFailure, fails, CatalogChange.applyAllTo]
  failure_eq := by simp [firstFailure?, fails, MergeFailure.of?]

theorem map {β : Type}
    {result : Catalog × Except MergeFailure α}
    (explained : Explain steps catalog result)
    (f : α -> β) :
    Explain steps catalog (result.1, result.2.map f) where
  catalog_eq := explained.catalog_eq
  failure_eq := by
    rw [← explained.failure_eq]
    exact MergeFailure.of?_map f result.2

/-- What two operations in a row make is explained by the steps of both. -/
theorem append {β : Type}
    {more : List MergeStep}
    {merged : Catalog}
    {value : α}
    {result : Catalog × Except MergeFailure β}
    (first : Explain steps catalog (merged, Except.ok value))
    (second : Explain more merged result) :
    Explain (steps ++ more) catalog result := by
  have noFailure : firstFailure? steps = none := first.failure_eq.symm
  have merged_eq : merged = CatalogChange.applyAllTo catalog (changesBeforeFailure steps) :=
    first.catalog_eq
  constructor
  · rw [second.catalog_eq, changesBeforeFailure_append_of_none noFailure, merged_eq]
    simp [CatalogChange.applyAllTo]
  · rw [second.failure_eq, firstFailure?_append, noFailure]
    rfl

/-- Steps behind a failure change nothing. -/
theorem append_of_error {β : Type}
    {merged : Catalog}
    {failure : MergeFailure}
    (first : Explain (α := α) steps catalog (merged, .error failure))
    (more : List MergeStep) :
    Explain (α := β) (steps ++ more) catalog (merged, .error failure) := by
  have failed : firstFailure? steps = some failure := first.failure_eq.symm
  constructor
  · rw [changesBeforeFailure_append_of_some failed]
    exact first.catalog_eq
  · rw [firstFailure?_append, failed]
    rfl

end Explain

/-- Filling a table takes one step for each of its entries. -/
theorem explain_mergeEntries
    (kind : TermKind)
    (catalog : Catalog)
    (entries : List (Value × Value)) :
    Explain (entries.map fun entry => .fileLexeme kind entry.1 entry.2) catalog
      (catalog.mergeEntries kind entries) := by
  induction entries generalizing catalog with
  | nil => exact Explain.nil catalog 0
  | cons entry rest inductionHypothesis =>
      obtain ⟨key, raw⟩ := entry
      rw [List.map_cons, Catalog.mergeEntries]
      cases read : Lexeme.ofValue kind raw with
      | error refusal =>
          exact Explain.fail (by simp [change, read])
      | ok lexeme =>
          cases named : Catalog.nameOf key with
          | error error =>
              exact Explain.fail (by simp [change, read, named])
          | ok name =>
              have writes : (MergeStep.fileLexeme kind key raw).change =
                  .ok (.filed kind name lexeme) := by
                simp [change, read, named]
              have followed := inductionHypothesis (catalog.putLexeme kind name lexeme)
              exact Explain.cons writes (followed.map (· + 1))

/-- A table is opened first, whatever it turns out to hold. -/
theorem explain_mergeTable
    {key : Value}
    {kind : TermKind}
    (named : TermKind.ofValue key = .ok kind)
    (catalog : Catalog)
    (table : Value) :
    Explain (ofTable key table) catalog (catalog.mergeTable kind table) := by
  have opens : (MergeStep.openTable kind).change = .ok (.opened kind) := rfl
  rw [ofTable, named]
  refine Explain.cons opens ?_
  unfold Catalog.mergeTable ofEntries
  cases table with
  | map entries => exact explain_mergeEntries kind (catalog.openTable kind) entries
  | _ =>
      dsimp only
      split
      · exact Explain.nil _ _
      · exact Explain.fail rfl

/-- Merging tables takes, for each, a step that opens it and those of its entries. -/
theorem explain_mergeTables
    (catalog : Catalog)
    (entries : List (Value × Value)) :
    Explain (entries.flatMap fun entry => ofTable entry.1 entry.2) catalog
      (catalog.mergeTables entries) := by
  induction entries generalizing catalog with
  | nil => exact Explain.nil catalog 0
  | cons entry rest inductionHypothesis =>
      obtain ⟨key, table⟩ := entry
      rw [List.flatMap_cons, Catalog.mergeTables]
      cases named : TermKind.ofValue key with
      | error fault =>
          refine Explain.append_of_error (α := Nat) ?_ _
          rw [ofTable, named]
          exact Explain.fail rfl
      | ok kind =>
          have opened := explain_mergeTable named catalog table
          dsimp only
          generalize catalog.mergeTable kind table = result at opened ⊢
          obtain ⟨merged, outcome⟩ := result
          cases outcome with
          | error failure => exact opened.append_of_error _
          | ok count => exact opened.append ((inductionHypothesis merged).map (count + ·))

/-- Merging labels takes one step for each of them. -/
theorem explain_mergeLabels
    (catalog : Catalog)
    (entries : List (Value × Value)) :
    Explain (entries.map fun entry => .giveLabel entry.1 entry.2) catalog
      (catalog.mergeLabels entries) := by
  induction entries generalizing catalog with
  | nil => exact Explain.nil catalog ()
  | cons entry rest inductionHypothesis =>
      obtain ⟨id, raw⟩ := entry
      rw [List.map_cons, Catalog.mergeLabels]
      cases read : Body.ofValue raw with
      | error fault =>
          exact Explain.fail (by simp [change, read])
      | ok body =>
          cases named : id.written with
          | error error =>
              exact Explain.fail (by simp [change, read, named])
          | ok name =>
              have writes : (MergeStep.giveLabel id raw).change = .ok (.labelled name body) := by
                simp [change, read, named]
              exact Explain.cons writes (inductionHypothesis (catalog.putLabel name body))

end MergeStep

/-- The outcome of a merge as a result that may have failed. -/
def Merge.outcome (merge : Merge) : Catalog × Except MergeFailure Unit :=
  (merge.catalog, match merge.failure with
    | none => .ok ()
    | some failure => .error failure)

namespace MergeStep

theorem explain_addLexemes (catalog : Catalog) (data : Value) :
    Explain (ofLexemes data) catalog (catalog.addLexemes data).outcome := by
  unfold Catalog.addLexemes ofLexemes
  cases data with
  | map entries =>
      have explained := explain_mergeTables catalog entries
      dsimp only
      generalize catalog.mergeTables entries = result at explained ⊢
      obtain ⟨merged, outcome⟩ := result
      cases outcome with
      | error failure => exact ⟨explained.catalog_eq, explained.failure_eq⟩
      | ok count => exact ⟨explained.catalog_eq, explained.failure_eq⟩
  | _ => exact Explain.fail rfl

theorem explain_addLabels (catalog : Catalog) (data : Value) :
    Explain (ofLabels data) catalog (catalog.addLabels data).outcome := by
  unfold Catalog.addLabels ofLabels
  cases data with
  | map entries =>
      have explained := explain_mergeLabels catalog entries
      dsimp only
      generalize catalog.mergeLabels entries = result at explained ⊢
      obtain ⟨merged, outcome⟩ := result
      cases outcome with
      | error failure => exact ⟨explained.catalog_eq, explained.failure_eq⟩
      | ok count => exact ⟨explained.catalog_eq, explained.failure_eq⟩
  | _ => exact Explain.fail rfl

/-- Merging a bundle takes the steps of its lexemes and then those of its labels. -/
theorem explain_addBundle (catalog : Catalog) (bundle : Value) :
    Explain (ofBundle bundle) catalog (catalog.addBundle bundle).outcome := by
  unfold Catalog.addBundle ofBundle
  cases shape : Catalog.sections bundle with
  | error fault => exact Explain.fail rfl
  | ok parts =>
      obtain ⟨lexemes, labels⟩ := parts
      have first := explain_addLexemes catalog lexemes
      cases failed : (catalog.addLexemes lexemes).failure with
      | some failure =>
          simp only [Merge.outcome, failed] at first ⊢
          exact first.append_of_error _
      | none =>
          simp only [Merge.outcome, failed] at first ⊢
          exact first.append (explain_addLabels _ labels)

end MergeStep

end Concord
