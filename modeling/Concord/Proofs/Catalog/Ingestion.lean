import Concord.Proofs.Catalog.History
import Concord.Proofs.Intake.Refusal

/-!
# Bundles that are refused

Data of the wrong shape is refused wherever it stands in a bundle, with one
exception.  A table of lexemes that is neither blank nor a mapping is not
checked, and a merge that reaches one fails without refusing anything.
-/

namespace Concord

/-- Whether a failure refuses some data; any other failure escapes from within a merge. -/
def MergeFailure.isRefusal : MergeFailure -> Bool
  | .badBundle _ => true
  | .badKind _ _ => true
  | .badLexeme _ _ _ => true
  | .badLabel _ _ => true
  | .notAMapping _ => false
  | .number _ => false

/-- A merge that ends well or refuses its data. -/
def Merge.OnlyRefuses (merge : Merge) : Prop :=
  ∀ failure, merge.failure = some failure -> failure.isRefusal = true

/-- Whether a value stands for a table; what is blank stands for an empty one. -/
def Value.isTable : Value -> Bool
  | .map _ => true
  | value => value.isBlank

/-- A value that merges as the table of a kind: everything in it is read as a lexeme. -/
def Value.FillsTable (kind : TermKind) : Value -> Prop
  | .map entries => ∀ entry ∈ entries, ∃ lexeme, Lexeme.ofValue kind entry.2 = .ok lexeme
  | value => value.isBlank = true

/--
A merge of the tables of a dictionary reaches one that is neither blank nor a
mapping: it stands under the name of a kind, and every table before it merges.
-/
inductive ReachesStrayTable (table : Value) : List (Value × Value) -> Prop
  | here
      {key : Value}
      {kind : TermKind}
      {rest : List (Value × Value)}
      (named : TermKind.ofValue key = .ok kind)
      (stray : table.isTable = false) :
      ReachesStrayTable table ((key, table) :: rest)
  | later
      {key merged : Value}
      {kind : TermKind}
      {rest : List (Value × Value)}
      (named : TermKind.ofValue key = .ok kind)
      (fills : merged.FillsTable kind)
      (reaches : ReachesStrayTable table rest) :
      ReachesStrayTable table ((key, merged) :: rest)

/-- A bundle of the right outer shape whose merge reaches a stray table. -/
def Value.HasStrayTable (bundle table : Value) : Prop :=
  ∃ lexemes labels, Catalog.sections bundle = .ok (.map lexemes, labels) ∧
    ReachesStrayTable table lexemes

namespace Catalog

theorem nameOf_of_isWritable
    {key : Value}
    (writable : key.isWritable = true) :
    ∃ name, nameOf key = .ok name := by
  cases key with
  | null => exact ⟨"", rfl⟩
  | _ => exact ⟨_, Value.written_of_isWritable writable⟩

/-- The sections of a bundle that can be written can be written too. -/
theorem isWritable_sectionOf
    {entries : List (Value × Value)}
    (writable : (Value.map entries).isWritable = true)
    (name : String) :
    (sectionOf entries name).isWritable = true := by
  unfold sectionOf
  split
  · rfl
  · rename_i value found
    split
    · rfl
    · exact Value.isWritable_part writable (Value.mem_parts_of_find? found)

/-- Sections that are found are both mappings. -/
theorem sections_eq_ok
    {bundle lexemes labels : Value}
    (shape : sections bundle = .ok (lexemes, labels)) :
    ∃ entries lexemeEntries labelEntries, bundle = .map entries ∧
      sectionOf entries "terms" = lexemes ∧ lexemes = .map lexemeEntries ∧
      sectionOf entries "labels" = labels ∧ labels = .map labelEntries := by
  unfold sections at shape
  split at shape
  · rename_i entries
    split at shape
    · rename_i lexemeEntries labelEntries terms_eq labels_eq
      obtain ⟨rfl, rfl⟩ := Prod.mk.inj (Except.ok.inj shape)
      exact ⟨entries, lexemeEntries, labelEntries, rfl, terms_eq, rfl, labels_eq, rfl⟩
    · cases shape
  · cases shape

theorem isWritable_of_sections
    {bundle lexemes labels : Value}
    (writable : bundle.isWritable = true)
    (shape : sections bundle = .ok (lexemes, labels)) :
    lexemes.isWritable = true ∧ labels.isWritable = true := by
  obtain ⟨entries, _, _, rfl, terms_eq, _, labels_eq, _⟩ := sections_eq_ok shape
  rw [← terms_eq, ← labels_eq]
  exact ⟨isWritable_sectionOf writable "terms", isWritable_sectionOf writable "labels"⟩

end Catalog

namespace MergeStep

variable {kind : TermKind} {key table : Value} {entries : List (Value × Value)}

/-- A step that writes its change or refuses its data. -/
def OnlyRefuses (step : MergeStep) : Prop :=
  ∀ failure, step.change = .error failure -> failure.isRefusal = true

/-- If every step only refuses, so do all of them together. -/
theorem isRefusal_of_firstFailure?
    {steps : List MergeStep}
    {failure : MergeFailure}
    (onlyRefuse : ∀ step ∈ steps, step.OnlyRefuses)
    (failed : firstFailure? steps = some failure) :
    failure.isRefusal = true := by
  obtain ⟨before, step, after, rfl, _, fails⟩ := split_of_firstFailure?_some failed
  exact onlyRefuse step (List.mem_append_right before List.mem_cons_self) failure fails

/-- Steps come to their end exactly if each of them writes something. -/
theorem firstFailure?_eq_none_iff (steps : List MergeStep) :
    firstFailure? steps = none ↔ ∀ step ∈ steps, ∃ written, step.change = .ok written := by
  induction steps with
  | nil => simp [firstFailure?]
  | cons step rest inductionHypothesis =>
      cases outcome : step.change with
      | ok written => simp [firstFailure?, outcome, inductionHypothesis]
      | error failure => simp [firstFailure?, outcome]

/-- Filing a lexeme under a key that can be written fails by a refusal only. -/
theorem fileLexeme_onlyRefuses
    (writable : key.isWritable = true)
    (kind : TermKind)
    (raw : Value) :
    (fileLexeme kind key raw).OnlyRefuses := by
  intro failure fails
  obtain ⟨name, named⟩ := Catalog.nameOf_of_isWritable writable
  cases read : Lexeme.ofValue kind raw with
  | ok lexeme => simp [change, read, named] at fails
  | error refusal =>
      obtain rfl : MergeFailure.badLexeme kind key refusal = failure := by
        simpa [change, read] using fails
      rfl

theorem giveLabel_onlyRefuses
    {id raw : Value}
    (writableId : id.isWritable = true)
    (writable : raw.isWritable = true) :
    (giveLabel id raw).OnlyRefuses := by
  intro failure fails
  have named := Value.written_of_isWritable writableId
  cases read : Body.ofValue raw with
  | ok body => simp [change, read, named] at fails
  | error fault =>
      cases fault with
      | number error => exact (Body.decides_ofValue writable error read).elim
      | refused refusal =>
          obtain rfl : MergeFailure.badLabel id refusal = failure := by
            simpa [change, read, MergeFailure.ofFault] using fails
          rfl

/-! ## The table of one kind -/

/-- A value that is neither a mapping nor blank stops the merge where a table is due. -/
theorem ofEntries_of_not_isTable
    (stray : table.isTable = false)
    (kind : TermKind) :
    ofEntries kind table = [.stop (.notAMapping table.fullTypeName)] := by
  cases table with
  | map entries => cases stray
  | _ =>
      rw [ofEntries, if_neg]
      · exact Bool.eq_false_iff.mp stray
      · nofun

/-- Filling a table fails by a refusal only, if all of it can be written. -/
theorem ofEntries_onlyRefuses
    (writable : table.isWritable = true)
    (isTable : table.isTable = true) :
    ∀ step ∈ ofEntries kind table, step.OnlyRefuses := by
  intro step present
  unfold ofEntries at present
  split at present
  · obtain ⟨entry, member, rfl⟩ := List.mem_map.mp present
    exact fileLexeme_onlyRefuses (Value.isWritable_key writable member) kind entry.2
  · rename_i noMapping
    have blank : table.isBlank = true := by
      cases table with
      | map entries => exact (noMapping entries rfl).elim
      | _ => exact isTable
    rw [if_pos blank] at present
    cases present

/-- A table that can be written merges exactly if it is filled with lexemes. -/
theorem firstFailure?_ofEntries_eq_none_iff
    (writable : table.isWritable = true) :
    firstFailure? (ofEntries kind table) = none ↔ table.FillsTable kind := by
  cases table with
  | map entries =>
      rw [ofEntries, firstFailure?_eq_none_iff, List.forall_mem_map]
      refine forall₂_congr fun entry member => ?_
      obtain ⟨name, named⟩ := Catalog.nameOf_of_isWritable (Value.isWritable_key writable member)
      cases read : Lexeme.ofValue kind entry.2 with
      | ok lexeme => simp [change, read, named]
      | error refusal => simp [change, read]
  | _ =>
      simp only [ofEntries, Value.FillsTable]
      split
      · rename_i blank
        simp only [firstFailure?, blank]
      · rename_i notBlank
        simp only [firstFailure?, change, notBlank, reduceCtorEq]

/-- Under the name of a kind a table fails as its entries do. -/
theorem firstFailure?_ofTable
    (named : TermKind.ofValue key = .ok kind)
    (table : Value) :
    firstFailure? (ofTable key table) = firstFailure? (ofEntries kind table) := by
  simp only [ofTable, named, firstFailure?, change]

/-- A key that names no kind is refused. -/
theorem isRefusal_of_unnamed
    {fault : ReadingFault}
    (writable : key.isWritable = true)
    (unnamed : TermKind.ofValue key = .error fault)
    (table : Value) :
    ∃ failure, firstFailure? (ofTable key table) = some failure ∧ failure.isRefusal = true := by
  cases fault with
  | number error => exact (TermKind.decides_ofValue writable error unnamed).elim
  | refused refusal =>
      refine ⟨.badKind key refusal, ?_, rfl⟩
      simp only [ofTable, unnamed, firstFailure?, change, MergeFailure.ofFault]

/-! ## The tables of a dictionary -/

theorem firstFailure?_ofLexemes_cons (entry : Value × Value) (rest : List (Value × Value)) :
    firstFailure? (ofLexemes (.map (entry :: rest))) =
      (firstFailure? (ofTable entry.1 entry.2)).or (firstFailure? (ofLexemes (.map rest))) := by
  simp only [ofLexemes, List.flatMap_cons, firstFailure?_append]

/-- A stray table that is reached stops the merge without a refusal. -/
theorem firstFailure?_of_reachesStrayTable
    (writable : (Value.map entries).isWritable = true)
    (reaches : ReachesStrayTable table entries) :
    firstFailure? (ofLexemes (.map entries)) = some (.notAMapping table.fullTypeName) := by
  induction reaches with
  | here named stray =>
      rw [firstFailure?_ofLexemes_cons, firstFailure?_ofTable named,
        ofEntries_of_not_isTable stray]
      rfl
  | later named fills reaches inductionHypothesis =>
      obtain ⟨⟨_, writableMerged⟩, writableRest⟩ := Value.isWritable_map_cons_iff.mp writable
      have noFailure := (firstFailure?_ofEntries_eq_none_iff writableMerged).mpr fills
      rw [firstFailure?_ofLexemes_cons, firstFailure?_ofTable named, noFailure, Option.none_or]
      exact inductionHypothesis writableRest

/-- A dictionary is refused unless a stray table is reached. -/
theorem isRefusal_or_reachesStrayTable
    {failure : MergeFailure}
    (writable : (Value.map entries).isWritable = true)
    (failed : firstFailure? (ofLexemes (.map entries)) = some failure) :
    failure.isRefusal = true ∨ ∃ table, ReachesStrayTable table entries := by
  induction entries with
  | nil => cases failed
  | cons entry rest inductionHypothesis =>
      obtain ⟨key, table⟩ := entry
      obtain ⟨⟨writableKey, writableTable⟩, writableRest⟩ :=
        Value.isWritable_map_cons_iff.mp writable
      rw [firstFailure?_ofLexemes_cons] at failed
      cases named : TermKind.ofValue key with
      | error fault =>
          obtain ⟨own, first, refuses⟩ := isRefusal_of_unnamed writableKey named table
          rw [first] at failed
          obtain rfl := Option.some.inj failed
          exact .inl refuses
      | ok kind =>
          rw [firstFailure?_ofTable named] at failed
          -- A stray table fails before anything behind it counts: go on only past one that merges.
          cases isTable : table.isTable with
          | false => exact .inr ⟨table, .here named isTable⟩
          | true =>
              cases first : firstFailure? (ofEntries kind table) with
              | some own =>
                  rw [first] at failed
                  obtain rfl := Option.some.inj failed
                  exact .inl (isRefusal_of_firstFailure?
                    (ofEntries_onlyRefuses writableTable isTable) first)
              | none =>
                  rw [first, Option.none_or] at failed
                  refine (inductionHypothesis writableRest failed).imp_right ?_
                  rintro ⟨stray, reaches⟩
                  have fills := (firstFailure?_ofEntries_eq_none_iff writableTable).mp first
                  exact ⟨stray, .later named fills reaches⟩

/-! ## Whole bundles -/

theorem ofLabels_onlyRefuses
    (writable : (Value.map entries).isWritable = true) :
    ∀ step ∈ ofLabels (.map entries), step.OnlyRefuses := by
  intro step present
  obtain ⟨entry, member, rfl⟩ := List.mem_map.mp present
  have inside : entry.2 ∈ (Value.map entries).parts := List.mem_map_of_mem member
  exact giveLabel_onlyRefuses (Value.isWritable_key writable member)
    (Value.isWritable_part writable inside)

/-- A stray table that a bundle holds is what its merge fails at. -/
theorem firstFailure?_of_hasStrayTable
    {bundle : Value}
    (writable : bundle.isWritable = true)
    (stray : bundle.HasStrayTable table) :
    firstFailure? (ofBundle bundle) = some (.notAMapping table.fullTypeName) := by
  obtain ⟨lexemes, labels, shape, reaches⟩ := stray
  have writableLexemes := (Catalog.isWritable_of_sections writable shape).1
  have failed := firstFailure?_of_reachesStrayTable writableLexemes reaches
  simp only [ofBundle, shape, firstFailure?_append, failed, Option.some_or]

/-- A bundle is refused unless it holds a stray table. -/
theorem isRefusal_or_hasStrayTable
    {bundle : Value}
    {failure : MergeFailure}
    (writable : bundle.isWritable = true)
    (failed : firstFailure? (ofBundle bundle) = some failure) :
    failure.isRefusal = true ∨ ∃ table, bundle.HasStrayTable table := by
  unfold ofBundle at failed
  split at failed
  · obtain rfl := Option.some.inj failed
    exact .inl rfl
  · rename_i lexemes labels shape
    obtain ⟨writableLexemes, writableLabels⟩ := Catalog.isWritable_of_sections writable shape
    obtain ⟨_, lexemeEntries, labelEntries, _, _, rfl, _, rfl⟩ := Catalog.sections_eq_ok shape
    rw [firstFailure?_append] at failed
    cases first : firstFailure? (ofLexemes (.map lexemeEntries)) with
    | some own =>
        rw [first] at failed
        obtain rfl := Option.some.inj failed
        refine (isRefusal_or_reachesStrayTable writableLexemes first).imp_right ?_
        rintro ⟨table, reaches⟩
        exact ⟨table, lexemeEntries, .map labelEntries, shape, reaches⟩
    | none =>
        rw [first, Option.none_or] at failed
        exact .inl (isRefusal_of_firstFailure? (ofLabels_onlyRefuses writableLabels) failed)

end MergeStep

namespace Catalog

theorem failure_ofBundle (bundle : Value) :
    (ofBundle bundle).failure = MergeStep.firstFailure? (MergeStep.ofBundle bundle) :=
  (MergeCall.bundle bundle).failure_run empty

/--
Making a catalog from a bundle ends well or refuses the bundle, unless the
bundle holds a stray table, which then is what the merge fails at.
-/
theorem onlyRefuses_ofBundle_iff
    {bundle : Value}
    (writable : bundle.isWritable = true) :
    ((ofBundle bundle).OnlyRefuses ↔ ¬ ∃ table, bundle.HasStrayTable table) ∧
      ∀ table, bundle.HasStrayTable table ->
        (ofBundle bundle).failure = some (.notAMapping table.fullTypeName) := by
  have fails (table : Value) (stray : bundle.HasStrayTable table) :
      (ofBundle bundle).failure = some (.notAMapping table.fullTypeName) := by
    rw [failure_ofBundle]
    exact MergeStep.firstFailure?_of_hasStrayTable writable stray
  refine ⟨⟨?_, ?_⟩, fails⟩
  · rintro onlyRefuses ⟨table, stray⟩
    cases onlyRefuses _ (fails table stray)
  · intro noStray failure failed
    rw [failure_ofBundle] at failed
    exact (MergeStep.isRefusal_or_hasStrayTable writable failed).resolve_right noStray

/-- A bundle whose table of nouns is a number. -/
def numberForTable : Value :=
  .map [(.text "terms", .map [(.text "n", .integer 5)])]

theorem numberForTable_not_refused :
    (ofBundle numberForTable).failure = some (.notAMapping "int") ∧
      ¬ (ofBundle numberForTable).OnlyRefuses := by
  have failed : (ofBundle numberForTable).failure = some (.notAMapping "int") := rfl
  exact ⟨failed, fun onlyRefuses => nomatch onlyRefuses _ failed⟩

/--
A bundle with a full table and an empty one before a text that stands for a
table; the malformed noun after it and the bad label are not reached.
-/
def textForTable : Value :=
  .map [(.text "labels", .map [(.text "title", .list [.integer 3])]),
    (.text "terms", .map [(.text "n", .map [(.text "book", .map [(.text "l", .text "Book")])]),
      (.text "d", .null), (.text "a", .text "red"),
      (.tag .noun, .map [(.text "pen", .integer 0)])])]

theorem onlyRefuses_ofBundle_textForTable :
    textForTable.isWritable = true ∧
      (ofBundle textForTable).failure = some (.notAMapping "str") := by
  have writable : textForTable.isWritable = true := by decide +kernel
  refine ⟨writable, (onlyRefuses_ofBundle_iff writable).2 (.text "red") ⟨_, _, rfl, ?_⟩⟩
  refine .later rfl ?_ (.later rfl rfl (.here rfl rfl))
  intro entry present
  obtain rfl := List.mem_singleton.mp present
  exact ⟨_, rfl⟩

end Catalog
end Concord
