import Concord.Catalog.Merge
import Concord.Proofs.Catalog.Change

/-!
# The steps of a merge

The data of a merge is a list of steps: it opens a table, files a lexeme or
gives a label its body, and it stops where the data has the wrong shape.  What
counts of a merge are the changes of the steps before the first one that fails.
-/

namespace Concord

/-- One step of a merge, as its data gives it. -/
inductive MergeStep
  | stop (failure : MergeFailure)
  | openTable (kind : TermKind)
  | fileLexeme (kind : TermKind) (key raw : Value)
  | giveLabel (id raw : Value)

namespace MergeStep

/-- What a step writes, or why it fails; the value of an entry is read before its key. -/
def change : MergeStep -> Except MergeFailure CatalogChange
  | .stop failure => .error failure
  | .openTable kind => .ok (.opened kind)
  | .fileLexeme kind key raw =>
      match Lexeme.ofValue kind raw, Catalog.nameOf key with
      | .error refusal, _ => .error (.badLexeme kind key refusal)
      | .ok _, .error error => .error (.number error)
      | .ok lexeme, .ok name => .ok (.filed kind name lexeme)
  | .giveLabel id raw =>
      match Body.ofValue raw, id.written with
      | .error fault, _ => .error (.ofFault (.badLabel id) fault)
      | .ok _, .error error => .error (.number error)
      | .ok body, .ok name => .ok (.labelled name body)

/-- The changes of the steps before the first one that fails. -/
def changesBeforeFailure : List MergeStep -> List CatalogChange
  | [] => []
  | step :: rest =>
      match step.change with
      | .ok written => written :: changesBeforeFailure rest
      | .error _ => []

/-- Why the first step that fails does so. -/
def firstFailure? : List MergeStep -> Option MergeFailure
  | [] => none
  | step :: rest =>
      match step.change with
      | .ok _ => firstFailure? rest
      | .error failure => some failure

/-- The steps of filling the table of a kind; what is absent or empty fills nothing. -/
def ofEntries (kind : TermKind) : Value -> List MergeStep
  | .map entries => entries.map fun entry => .fileLexeme kind entry.1 entry.2
  | table => if table.isBlank then [] else [.stop (.notAMapping table.fullTypeName)]

/-- The steps of merging one table under its key. -/
def ofTable (key table : Value) : List MergeStep :=
  match TermKind.ofValue key with
  | .error fault => [.stop (.ofFault (.badKind key) fault)]
  | .ok kind => .openTable kind :: ofEntries kind table

/-- The steps of merging a mapping of kinds to tables. -/
def ofLexemes : Value -> List MergeStep
  | .map entries => entries.flatMap fun entry => ofTable entry.1 entry.2
  | data => [.stop (.notAMapping data.fullTypeName)]

/-- The steps of merging a mapping of labels to bodies. -/
def ofLabels : Value -> List MergeStep
  | .map entries => entries.map fun entry => .giveLabel entry.1 entry.2
  | data => [.stop (.notAMapping data.fullTypeName)]

/-- The steps of merging a bundle: all lexemes before any label. -/
def ofBundle (bundle : Value) : List MergeStep :=
  match Catalog.sections bundle with
  | .error fault => [.stop (.badBundle fault)]
  | .ok (lexemes, labels) => ofLexemes lexemes ++ ofLabels labels

/-- Steps in a row fail as the first part does, or else as the second. -/
theorem firstFailure?_append (first second : List MergeStep) :
    firstFailure? (first ++ second) = (firstFailure? first).or (firstFailure? second) := by
  induction first with
  | nil => rfl
  | cons step rest inductionHypothesis =>
      cases outcome : step.change with
      | ok written => simp [firstFailure?, outcome, inductionHypothesis]
      | error failure => simp [firstFailure?, outcome]

/-- Behind steps without a failure all changes of the next steps count. -/
theorem changesBeforeFailure_append_of_none
    {first : List MergeStep}
    (noFailure : firstFailure? first = none)
    (second : List MergeStep) :
    changesBeforeFailure (first ++ second) =
      changesBeforeFailure first ++ changesBeforeFailure second := by
  induction first with
  | nil => rfl
  | cons step rest inductionHypothesis =>
      cases outcome : step.change with
      | ok written =>
          simp only [firstFailure?, outcome] at noFailure
          simp [changesBeforeFailure, outcome, inductionHypothesis noFailure]
      | error failure => simp [firstFailure?, outcome] at noFailure

/-- Behind a failure no change counts. -/
theorem changesBeforeFailure_append_of_some
    {first : List MergeStep}
    {failure : MergeFailure}
    (failed : firstFailure? first = some failure)
    (second : List MergeStep) :
    changesBeforeFailure (first ++ second) = changesBeforeFailure first := by
  induction first with
  | nil => simp [firstFailure?] at failed
  | cons step rest inductionHypothesis =>
      cases outcome : step.change with
      | ok written =>
          simp only [firstFailure?, outcome] at failed
          simp [changesBeforeFailure, outcome, inductionHypothesis failed]
      | error failure => simp [changesBeforeFailure, outcome]

/-- Without a failure every step writes its change. -/
theorem map_change_of_firstFailure?_none
    {steps : List MergeStep}
    (noFailure : firstFailure? steps = none) :
    steps.map change = (changesBeforeFailure steps).map .ok := by
  induction steps with
  | nil => rfl
  | cons step rest inductionHypothesis =>
      cases outcome : step.change with
      | error failure => simp [firstFailure?, outcome] at noFailure
      | ok written =>
          simp only [firstFailure?, outcome] at noFailure
          simp [changesBeforeFailure, outcome, inductionHypothesis noFailure]

/-- Up to a failure, exactly the steps before the failing one write their changes. -/
theorem split_of_firstFailure?_some
    {steps : List MergeStep}
    {failure : MergeFailure}
    (failed : firstFailure? steps = some failure) :
    ∃ before step after, steps = before ++ step :: after ∧
      before.map change = (changesBeforeFailure steps).map .ok ∧
      step.change = .error failure := by
  induction steps with
  | nil => simp [firstFailure?] at failed
  | cons step rest inductionHypothesis =>
      cases outcome : step.change with
      | error other =>
          obtain rfl : other = failure := by simpa [firstFailure?, outcome] using failed
          exact ⟨[], step, rest, rfl, by simp [changesBeforeFailure, outcome], outcome⟩
      | ok written =>
          simp only [firstFailure?, outcome] at failed
          obtain ⟨before, failing, after, split, writes, fails⟩ := inductionHypothesis failed
          refine ⟨step :: before, failing, after, ?_, ?_, fails⟩
          · rw [split, List.cons_append]
          · simp [changesBeforeFailure, outcome, writes]

/-- Steps open every table before they file anything in it. -/
def OpenFirst (steps : List MergeStep) : Prop :=
  ∀ kind, (changesBeforeFailure steps).any (CatalogChange.concerns kind) =
    (changesBeforeFailure steps).any (CatalogChange.opens kind)

/-- Steps in a row open their tables first if both parts do. -/
theorem OpenFirst.append
    {first second : List MergeStep}
    (openFirst : OpenFirst first)
    (openSecond : OpenFirst second) :
    OpenFirst (first ++ second) := by
  intro kind
  cases failed : firstFailure? first with
  | none =>
      rw [changesBeforeFailure_append_of_none failed, List.any_append, List.any_append,
        openFirst kind, openSecond kind]
  | some failure =>
      rw [changesBeforeFailure_append_of_some failed]
      exact openFirst kind

/-- Every change before the failure is that of some step. -/
theorem exists_step_of_mem
    {steps : List MergeStep}
    {written : CatalogChange}
    (present : written ∈ changesBeforeFailure steps) :
    ∃ step ∈ steps, step.change = .ok written := by
  induction steps with
  | nil => simp [changesBeforeFailure] at present
  | cons step rest inductionHypothesis =>
      cases outcome : step.change with
      | error failure => simp [changesBeforeFailure, outcome] at present
      | ok first =>
          simp only [changesBeforeFailure, outcome, List.mem_cons] at present
          rcases present with rfl | later
          · exact ⟨step, List.mem_cons_self, outcome⟩
          · obtain ⟨found, member, writes⟩ := inductionHypothesis later
            exact ⟨found, List.mem_cons_of_mem step member, writes⟩

theorem fileLexeme_change_eq_ok
    {kind : TermKind}
    {key raw : Value}
    {written : CatalogChange}
    (writes : (fileLexeme kind key raw).change = .ok written) :
    ∃ name lexeme, written = .filed kind name lexeme := by
  cases read : Lexeme.ofValue kind raw with
  | error refusal => simp [change, read] at writes
  | ok lexeme =>
      cases named : Catalog.nameOf key with
      | error error => simp [change, read, named] at writes
      | ok name =>
          refine ⟨name, lexeme, ?_⟩
          simpa [change, read, named]
            using writes.symm

theorem giveLabel_change_eq_ok
    {id raw : Value}
    {written : CatalogChange}
    (writes : (giveLabel id raw).change = .ok written) :
    ∃ name body, written = .labelled name body := by
  cases read : Body.ofValue raw with
  | error fault => simp [change, read] at writes
  | ok body =>
      cases named : id.written with
      | error error => simp [change, read, named] at writes
      | ok name =>
          refine ⟨name, body, ?_⟩
          simpa [change, read, named]
            using writes.symm

/-- Filling a table files lexemes in it and writes nothing else. -/
theorem filed_of_mem_ofEntries
    {kind : TermKind}
    {table : Value}
    {written : CatalogChange}
    (present : written ∈ changesBeforeFailure (ofEntries kind table)) :
    ∃ name lexeme, written = .filed kind name lexeme := by
  obtain ⟨step, member, writes⟩ := exists_step_of_mem present
  unfold ofEntries at member
  split at member
  · obtain ⟨entry, _, rfl⟩ := List.mem_map.mp member
    exact fileLexeme_change_eq_ok writes
  · split at member
    · cases member
    · obtain rfl := List.mem_singleton.mp member
      cases writes

theorem openFirst_ofTable (key table : Value) : OpenFirst (ofTable key table) := by
  intro kind
  unfold ofTable
  cases TermKind.ofValue key with
  | error fault => rfl
  | ok own =>
      simp only [changesBeforeFailure, change, List.any_cons]
      by_cases same : own = kind
      · simp [CatalogChange.concerns, CatalogChange.opens, same]
      · have noneConcerns :
            (changesBeforeFailure (ofEntries own table)).any (CatalogChange.concerns kind) =
              false := by
          rw [List.any_eq_false]
          intro written present
          obtain ⟨name, lexeme, rfl⟩ := filed_of_mem_ofEntries present
          simp [CatalogChange.concerns, same]
        have noneOpens :
            (changesBeforeFailure (ofEntries own table)).any (CatalogChange.opens kind) =
              false := by
          rw [List.any_eq_false]
          intro written present
          obtain ⟨name, lexeme, rfl⟩ := filed_of_mem_ofEntries present
          simp [CatalogChange.opens]
        rw [noneConcerns, noneOpens]
        rfl

theorem openFirst_ofLexemes (data : Value) : OpenFirst (ofLexemes data) := by
  unfold ofLexemes
  split
  · rename_i entries
    induction entries with
    | nil => exact fun kind => rfl
    | cons entry rest inductionHypothesis =>
        rw [List.flatMap_cons]
        exact (openFirst_ofTable entry.1 entry.2).append inductionHypothesis
  · exact fun kind => rfl

/-- Merging labels gives bodies to labels and writes nothing else. -/
theorem labelled_of_mem_ofLabels
    {data : Value}
    {written : CatalogChange}
    (present : written ∈ changesBeforeFailure (ofLabels data)) :
    ∃ name body, written = .labelled name body := by
  obtain ⟨step, member, writes⟩ := exists_step_of_mem present
  unfold ofLabels at member
  split at member
  · obtain ⟨entry, _, rfl⟩ := List.mem_map.mp member
    exact giveLabel_change_eq_ok writes
  · obtain rfl := List.mem_singleton.mp member
    cases writes

theorem openFirst_ofLabels (data : Value) : OpenFirst (ofLabels data) := by
  intro kind
  rw [Bool.eq_iff_iff, List.any_eq_true, List.any_eq_true]
  constructor <;> rintro ⟨written, present, holds⟩ <;>
    obtain ⟨name, body, rfl⟩ := labelled_of_mem_ofLabels present <;>
    cases holds

/-- A bundle opens every table before it files anything in it. -/
theorem openFirst_ofBundle (bundle : Value) : OpenFirst (ofBundle bundle) := by
  unfold ofBundle
  split
  · exact fun kind => rfl
  · exact (openFirst_ofLexemes _).append (openFirst_ofLabels _)

end MergeStep

end Concord
