import Concord.Proofs.Catalog.Reach
import Concord.Proofs.Intake.Distinct
import Mathlib.Data.Finset.Card

/-!
# The events of merges

Every merge accounts for itself in what it records.  One that ends well records
a single event with its counts: how much it was given, and how many tables or
labels all calls up to it have made.  One that refuses an entry records a single
warning about it, and one that fails in any other way records nothing.
-/

namespace Concord

/-- The entries of a mapping; what is no mapping has none. -/
def Value.entries : Value -> List (Value × Value)
  | .map entries => entries
  | _ => []

/-- The entries of all tables in a mapping of tables, those under one name included. -/
def Value.lexemeEntries (data : Value) : List (Value × Value) :=
  data.entries.flatMap fun table => table.2.entries

/-- The event that sums up a merge of lexemes at the end of some calls. -/
def MergeEvent.SumsUpLexemes (calls : List MergeCall) (data : Value) (event : MergeEvent) : Prop :=
  ∃ kinds : Finset TermKind,
    (∀ kind, kind ∈ kinds ↔ ∃ call ∈ calls, call.Reaches kind) ∧
      event = .lexemesMerged data.lexemeEntries.length kinds.card

/-- The event that sums up a merge of labels at the end of some calls. -/
def MergeEvent.SumsUpLabels (calls : List MergeCall) (data : Value) (event : MergeEvent) : Prop :=
  ∃ names : Finset String,
    (∀ name, name ∈ names ↔ ∃ call ∈ calls, call.GivesBody name) ∧
      event = .labelsMerged data.entries.length names.card

/-- Whether a failure refuses an entry of what is merged. -/
def MergeFailure.refusesEntry : MergeFailure -> Bool
  | .badKind _ _ => true
  | .badLexeme _ _ _ => true
  | .badLabel _ _ => true
  | .notAMapping _ => false
  | .badBundle _ => false
  | .number _ => false

/-- Whether a merge stops at an entry that it refuses. -/
def Merge.refusesEntry (merge : Merge) : Bool :=
  merge.failure.any MergeFailure.refusesEntry

/--
A merge records what becomes of its data: one event that sums it up if it ends
well, one warning about the first entry that does not merge if that is refused,
and nothing otherwise.
-/
structure Merge.Accounts (merge : Merge) (whole : Prop) (sumsUp warns : MergeEvent -> Prop) :
    Prop where
  /-- The merge comes to its end exactly if all of its data can be merged. -/
  returns_iff : merge.failure = none ↔ whole
  /-- A merge that comes to its end records one event, which sums it up. -/
  returned : merge.failure = none -> ∃ event, merge.events = [event] ∧ sumsUp event
  /-- A merge that refuses an entry records one warning, which is about that entry. -/
  refused : merge.refusesEntry = true -> ∃ warning, merge.events = [warning] ∧ warns warning
  /-- A warning that is due has been recorded, alone, by a merge that refused an entry. -/
  warned : ∀ warning, warns warning -> merge.refusesEntry = true ∧ merge.events = [warning]
  /-- A merge that fails without refusing an entry records nothing. -/
  stopped : merge.failure ≠ none -> merge.refusesEntry = false -> merge.events = []

/--
A bundle records what its lexemes and then its labels record.  Labels behind a
failure are not merged, and a bundle of the wrong shape records nothing.
-/
structure MergeCall.RecordsSections (earlier : List MergeCall) (data : Value) : Prop where
  /-- A bundle of the wrong shape records nothing. -/
  misshapen : ∀ fault, Catalog.sections data = .error fault ->
    ((bundle data).run (catalogAfter earlier)).events = []
  /-- Where the lexemes fail, the bundle records what they record. -/
  stopped : ∀ terms names, Catalog.sections data = .ok (terms, names) ->
    ((lexemes terms).run (catalogAfter earlier)).failure ≠ none ->
      ((bundle data).run (catalogAfter earlier)).events =
        ((lexemes terms).run (catalogAfter earlier)).events
  /-- Where the lexemes are merged, what the labels record follows what they record. -/
  completed : ∀ terms names, Catalog.sections data = .ok (terms, names) ->
    ((lexemes terms).run (catalogAfter earlier)).failure = none ->
      ((bundle data).run (catalogAfter earlier)).events =
        ((lexemes terms).run (catalogAfter earlier)).events ++
          ((labels names).run (catalogAfter (earlier ++ [lexemes terms]))).events

/-! ## Failures and their warnings -/

namespace MergeFailure

theorem exists_warning {failure : MergeFailure} (refuses : failure.refusesEntry = true) :
    ∃ warning, failure.events = [warning] := by
  cases failure with
  | badKind key refusal => exact ⟨_, rfl⟩
  | badLexeme kind key refusal => exact ⟨_, rfl⟩
  | badLabel id refusal => exact ⟨_, rfl⟩
  | _ => cases refuses

/-- A failure that refuses no entry leaves nothing behind. -/
theorem events_of_not_refusesEntry {failure : MergeFailure}
    (escapes : failure.refusesEntry = false) :
    failure.events = [] := by
  cases failure with
  | notAMapping typeName => rfl
  | badBundle fault => rfl
  | number error => rfl
  | _ => cases escapes

theorem refusesEntry_of_events {failure : MergeFailure} {warning : MergeEvent}
    (leaves : failure.events = [warning]) :
    failure.refusesEntry = true := by
  cases refuses : failure.refusesEntry with
  | true => rfl
  | false => cases (events_of_not_refusesEntry refuses).symm.trans leaves

end MergeFailure

/-- A merge accounts for itself if it records one event at its end, or what its failure leaves. -/
theorem Merge.accounts_of_steps
    {merge : Merge}
    {steps : List MergeStep}
    {whole : Prop}
    {sumsUp warns : MergeEvent -> Prop}
    (failure_eq : merge.failure = MergeStep.firstFailure? steps)
    (failed : ∀ failure, merge.failure = some failure -> merge.events = failure.events)
    (whole_iff : MergeStep.firstFailure? steps = none ↔ whole)
    (warns_iff : ∀ warning, MergeStep.Warns steps warning ↔ warns warning)
    (returned : merge.failure = none -> ∃ event, merge.events = [event] ∧ sumsUp event) :
    merge.Accounts whole sumsUp warns where
  returns_iff := by rw [failure_eq, whole_iff]
  returned := returned
  refused := by
    intro refuses
    obtain ⟨failure, stops, refusesIt⟩ := (Option.any_eq_true _ _).mp refuses
    obtain ⟨warning, leaves⟩ := MergeFailure.exists_warning refusesIt
    refine ⟨warning, (failed failure stops).trans leaves, (warns_iff warning).mp ?_⟩
    exact ⟨failure, failure_eq.symm.trans stops, leaves⟩
  warned := by
    intro warning warned
    obtain ⟨failure, stops, leaves⟩ := (warns_iff warning).mpr warned
    have stopped : merge.failure = some failure := failure_eq.trans stops
    have refuses := MergeFailure.refusesEntry_of_events leaves
    exact ⟨(Option.any_eq_true _ _).mpr ⟨failure, stopped, refuses⟩,
      (failed failure stopped).trans leaves⟩
  stopped := by
    intro fails escapes
    obtain ⟨failure, stops⟩ := Option.ne_none_iff_exists'.mp fails
    rw [Merge.refusesEntry, stops, Option.any_some] at escapes
    rw [failed failure stops, MergeFailure.events_of_not_refusesEntry escapes]

/-! ## What is counted in a call -/

namespace Catalog

/-- The entries of a table that merges are counted one by one. -/
theorem count_of_mergeEntries
    {kind : TermKind}
    {catalog : Catalog}
    {entries : List (Value × Value)}
    {count : Nat}
    (merges : (mergeEntries kind catalog entries).2 = .ok count) :
    count = entries.length := by
  induction entries generalizing catalog count with
  | nil => exact (Except.ok.inj merges).symm
  | cons entry rest inductionHypothesis =>
      obtain ⟨key, raw⟩ := entry
      rw [mergeEntries] at merges
      cases read : Lexeme.ofValue kind raw with
      | error refusal => simp [read] at merges
      | ok lexeme =>
          cases named : nameOf key with
          | error error => simp [read, named] at merges
          | ok name =>
              simp only [read, named] at merges
              cases more : (mergeEntries kind (catalog.putLexeme kind name lexeme) rest).2 with
              | error failure => simp [more, Except.map] at merges
              | ok later =>
                  simp only [more, Except.map, Except.ok.injEq] at merges
                  rw [← merges, inductionHypothesis more, List.length_cons]

theorem count_of_mergeTable
    {catalog : Catalog}
    {kind : TermKind}
    {table : Value}
    {count : Nat}
    (merges : (catalog.mergeTable kind table).2 = .ok count) :
    count = table.entries.length := by
  cases table with
  | map entries => exact count_of_mergeEntries merges
  | _ =>
      simp only [mergeTable] at merges
      split at merges
      · exact (Except.ok.inj merges).symm
      · cases merges

/-- The count of a whole merge is that of the entries of all its tables. -/
theorem count_of_mergeTables
    {catalog : Catalog}
    {tables : List (Value × Value)}
    {count : Nat}
    (merges : (catalog.mergeTables tables).2 = .ok count) :
    count = (Value.map tables).lexemeEntries.length := by
  induction tables generalizing catalog count with
  | nil => exact (Except.ok.inj merges).symm
  | cons entry rest inductionHypothesis =>
      obtain ⟨key, table⟩ := entry
      rw [mergeTables] at merges
      cases named : TermKind.ofValue key with
      | error fault => simp [named] at merges
      | ok kind =>
          have counted (own : Nat) (ends : (catalog.mergeTable kind table).2 = .ok own) :
              own = table.entries.length :=
            count_of_mergeTable ends
          simp only [named] at merges
          generalize catalog.mergeTable kind table = result at counted merges
          obtain ⟨merged, outcome⟩ := result
          cases outcome with
          | error failure => simp at merges
          | ok own =>
              cases more : (mergeTables merged rest).2 with
              | error failure => simp [more, Except.map] at merges
              | ok later =>
                  simp only [more, Except.map, Except.ok.injEq] at merges
                  rw [← merges, counted own rfl, inductionHypothesis more]
                  simp [Value.lexemeEntries, Value.entries]

/--
A merge of lexemes that comes to its end records how many it was given and how
many tables are open.
-/
theorem addLexemes_returned
    {catalog : Catalog}
    {data : Value}
    (returns : (catalog.addLexemes data).failure = none) :
    (catalog.addLexemes data).events =
      [.lexemesMerged data.lexemeEntries.length
        (catalog.addLexemes data).catalog.tables.length] := by
  cases data with
  | map tables =>
      have counted (count : Nat) (ends : (catalog.mergeTables tables).2 = .ok count) :
          count = (Value.map tables).lexemeEntries.length :=
        count_of_mergeTables ends
      rw [addLexemes] at returns ⊢
      generalize catalog.mergeTables tables = result at counted returns ⊢
      obtain ⟨merged, outcome⟩ := result
      cases outcome with
      | error failure => cases returns
      | ok count => rw [← counted count rfl]
  | _ => cases returns

/-- A merge of lexemes that fails records what its failure leaves behind. -/
theorem addLexemes_failed
    {catalog : Catalog}
    {data : Value}
    {failure : MergeFailure}
    (fails : (catalog.addLexemes data).failure = some failure) :
    (catalog.addLexemes data).events = failure.events := by
  cases data with
  | map tables =>
      rw [addLexemes] at fails ⊢
      generalize catalog.mergeTables tables = result at fails ⊢
      obtain ⟨merged, outcome⟩ := result
      cases outcome with
      | error own => rw [Option.some.inj fails]
      | ok count => cases fails
  | _ => rw [← Option.some.inj fails]; rfl

/-- A merge of labels that comes to its end records how many it was given and how many there are. -/
theorem addLabels_returned
    {catalog : Catalog}
    {data : Value}
    (returns : (catalog.addLabels data).failure = none) :
    (catalog.addLabels data).events =
      [.labelsMerged data.entries.length (catalog.addLabels data).catalog.labels.length] := by
  cases data with
  | map entries =>
      rw [addLabels] at returns ⊢
      generalize catalog.mergeLabels entries = result at returns ⊢
      obtain ⟨merged, outcome⟩ := result
      cases outcome with
      | error failure => cases returns
      | ok done => rfl
  | _ => cases returns

theorem addLabels_failed
    {catalog : Catalog}
    {data : Value}
    {failure : MergeFailure}
    (fails : (catalog.addLabels data).failure = some failure) :
    (catalog.addLabels data).events = failure.events := by
  cases data with
  | map entries =>
      rw [addLabels] at fails ⊢
      generalize catalog.mergeLabels entries = result at fails ⊢
      obtain ⟨merged, outcome⟩ := result
      cases outcome with
      | error own => rw [Option.some.inj fails]
      | ok done => cases fails
  | _ => rw [← Option.some.inj fails]; rfl

/-! ## What is counted in a catalog -/

/-- No kind has two tables in a catalog, and no label two bodies. -/
structure HasDistinctKeys (catalog : Catalog) : Prop where
  /-- The kinds of the tables are distinct. -/
  tables : (Table.keys catalog.tables).Nodup
  /-- The names of the labels are distinct. -/
  labels : (Table.keys catalog.labels).Nodup

/-- A change gives no kind a second table and no label a second body. -/
theorem HasDistinctKeys.applyTo
    {catalog : Catalog}
    (distinct : catalog.HasDistinctKeys)
    (change : CatalogChange) :
    (change.applyTo catalog).HasDistinctKeys := by
  cases change with
  | opened kind => exact ⟨Table.nodup_keys_insert distinct.tables _ _, distinct.labels⟩
  | filed kind name lexeme =>
      exact ⟨Table.nodup_keys_insert distinct.tables _ _, distinct.labels⟩
  | labelled id body => exact ⟨distinct.tables, Table.nodup_keys_insert distinct.labels _ _⟩

/-- No call gives a kind a second table or a label a second body. -/
theorem hasDistinctKeys_catalogAfter (calls : List MergeCall) :
    (MergeCall.catalogAfter calls).HasDistinctKeys := by
  have empty : Catalog.empty.HasDistinctKeys := ⟨List.nodup_nil, List.nodup_nil⟩
  rw [MergeCall.catalogAfter_eq]
  exact List.foldlRecOn _ _ empty fun _ distinct change _ => distinct.applyTo change

end Catalog

theorem CatalogChange.opens_iff {kind : TermKind} {change : CatalogChange} :
    change.opens kind = true ↔ change = .opened kind := by
  cases change <;> simp [opens]

theorem CatalogChange.bodyFor?_eq_some_iff {name : String} {change : CatalogChange} {body : Body} :
    change.bodyFor? name = some body ↔ change = .labelled name body := by
  cases change with
  | labelled id given => simp [bodyFor?]
  | _ => simp [bodyFor?]

/-- A label has a body exactly if some change has given it one. -/
theorem CatalogChange.isSome_lastBody?_iff {name : String} {changes : List CatalogChange} :
    (lastBody? name changes).isSome = true ↔ ∃ body, .labelled name body ∈ changes := by
  rw [lastBody?, List.getLast?_isSome, ne_eq, List.eq_nil_iff_forall_not_mem, not_forall_not]
  simp only [List.mem_filterMap, bodyFor?_eq_some_iff, exists_eq_right]

/-- A table with distinct keys is as long as the set of its keys is large. -/
theorem Table.length_eq_card_keys
    {κ α : Type}
    [DecidableEq κ]
    {table : Table κ α}
    (distinct : (keys table).Nodup) :
    table.length = (keys table).toFinset.card := by
  rw [List.toFinset_card_of_nodup distinct, keys, List.length_map]

namespace MergeCall

theorem catalogAfter_concat (earlier : List MergeCall) (call : MergeCall) :
    catalogAfter (earlier ++ [call]) = (call.run (catalogAfter earlier)).catalog := by
  rw [catalogAfter, List.foldl_append]
  rfl

/-- The kinds that have a table after some calls are those that the calls reached. -/
theorem mem_keys_tables_iff (calls : List MergeCall) (kind : TermKind) :
    kind ∈ Table.keys (catalogAfter calls).tables ↔ ∃ call ∈ calls, call.Reaches kind := by
  calc kind ∈ Table.keys (catalogAfter calls).tables
      ↔ (catalogAfter calls).hasTable kind = true := (Table.isSome_get?_iff _ _).symm
    _ ↔ .opened kind ∈ history calls := by
        simp [hasTable_catalogAfter, CatalogChange.opens_iff]
    _ ↔ ∃ call ∈ calls, call.Reaches kind := by
        simp only [history, List.mem_flatMap, opened_mem_changes_iff]

/-- The names that have a label after some calls are those that the calls gave a body. -/
theorem mem_keys_labels_iff (calls : List MergeCall) (name : String) :
    name ∈ Table.keys (catalogAfter calls).labels ↔ ∃ call ∈ calls, call.GivesBody name := by
  calc name ∈ Table.keys (catalogAfter calls).labels
      ↔ (CatalogChange.lastBody? name (history calls)).isSome = true := by
        rw [← label?_catalogAfter]
        exact (Table.isSome_get?_iff _ _).symm
    _ ↔ ∃ body, .labelled name body ∈ history calls := CatalogChange.isSome_lastBody?_iff
    _ ↔ ∃ call ∈ calls, call.GivesBody name := by
        simp only [history, List.mem_flatMap, ← labelled_mem_changes_iff]
        constructor
        · rintro ⟨body, call, member, present⟩
          exact ⟨call, member, body, present⟩
        · rintro ⟨call, member, body, present⟩
          exact ⟨body, call, member, present⟩

/-- The tables after some calls are as many as the kinds that the calls reached. -/
theorem card_kinds_reached (calls : List MergeCall) :
    ∃ kinds : Finset TermKind,
      (∀ kind, kind ∈ kinds ↔ ∃ call ∈ calls, call.Reaches kind) ∧
        (catalogAfter calls).tables.length = kinds.card := by
  have distinct := Catalog.hasDistinctKeys_catalogAfter calls
  refine ⟨(Table.keys (catalogAfter calls).tables).toFinset, fun kind => ?_, ?_⟩
  · rw [List.mem_toFinset, mem_keys_tables_iff]
  · exact Table.length_eq_card_keys distinct.tables

/-- The labels after some calls are as many as the names that the calls gave a body. -/
theorem card_names_given (calls : List MergeCall) :
    ∃ names : Finset String,
      (∀ name, name ∈ names ↔ ∃ call ∈ calls, call.GivesBody name) ∧
        (catalogAfter calls).labels.length = names.card := by
  have distinct := Catalog.hasDistinctKeys_catalogAfter calls
  refine ⟨(Table.keys (catalogAfter calls).labels).toFinset, fun name => ?_, ?_⟩
  · rw [List.mem_toFinset, mem_keys_labels_iff]
  · exact Table.length_eq_card_keys distinct.labels

/-- A merge of lexemes at the end of some calls accounts for itself. -/
theorem lexemes_accounts (earlier : List MergeCall) (data : Value) :
    ((lexemes data).run (catalogAfter earlier)).Accounts data.IsDictionary
      (MergeEvent.SumsUpLexemes (earlier ++ [lexemes data]) data) data.DictionaryWarning := by
  refine Merge.accounts_of_steps ((lexemes data).failure_run _) ?_
    MergeStep.firstFailure?_ofLexemes_eq_none_iff (fun _ => MergeStep.warns_ofLexemes_iff) ?_
  · exact fun failure fails => Catalog.addLexemes_failed fails
  · intro returns
    obtain ⟨kinds, reached, counted⟩ := card_kinds_reached (earlier ++ [lexemes data])
    refine ⟨_, Catalog.addLexemes_returned returns, kinds, reached, ?_⟩
    rw [← counted, catalogAfter_concat]
    rfl

/-- A merge of labels at the end of some calls accounts for itself. -/
theorem labels_accounts (earlier : List MergeCall) (data : Value) :
    ((labels data).run (catalogAfter earlier)).Accounts data.IsLabelling
      (MergeEvent.SumsUpLabels (earlier ++ [labels data]) data) data.LabellingWarning := by
  refine Merge.accounts_of_steps ((labels data).failure_run _) ?_
    MergeStep.firstFailure?_ofLabels_eq_none_iff (fun _ => MergeStep.warns_ofLabels_iff) ?_
  · exact fun failure fails => Catalog.addLabels_failed fails
  · intro returns
    obtain ⟨names, given, counted⟩ := card_names_given (earlier ++ [labels data])
    refine ⟨_, Catalog.addLabels_returned returns, names, given, ?_⟩
    rw [← counted, catalogAfter_concat]
    rfl

/-- Every bundle records what its two sections record. -/
theorem records_sections (earlier : List MergeCall) (data : Value) :
    RecordsSections earlier data where
  misshapen fault shape := by simp [run, Catalog.addBundle, shape]
  stopped terms names shape fails := by
    obtain ⟨failure, failed⟩ := Option.ne_none_iff_exists'.mp fails
    simp only [run] at failed ⊢
    simp [Catalog.addBundle, shape, failed]
  completed terms names shape returns := by
    rw [catalogAfter_concat]
    simp only [run] at returns ⊢
    simp [Catalog.addBundle, shape, returns]

/--
After any calls, the failing ones included, a merge of lexemes or of labels
accounts for itself, and a bundle records what its sections do.
-/
theorem merges_account_for_themselves (earlier : List MergeCall) (data : Value) :
    ((lexemes data).run (catalogAfter earlier)).Accounts data.IsDictionary
        (MergeEvent.SumsUpLexemes (earlier ++ [lexemes data]) data) data.DictionaryWarning ∧
      ((labels data).run (catalogAfter earlier)).Accounts data.IsLabelling
        (MergeEvent.SumsUpLabels (earlier ++ [labels data]) data) data.LabellingWarning ∧
      RecordsSections earlier data :=
  ⟨lexemes_accounts earlier data, labels_accounts earlier data, records_sections earlier data⟩

/-- Two nouns the second of which is refused, before an empty table of articles. -/
def refusedNoun : Value :=
  .map [(.text "n", .map [(.text "Account", .map []), (.text "contact", .integer 3)]),
    (.text "d", .null)]

/-- An empty table of adjectives, and one noun in two spellings. -/
def spelledNoun : Value :=
  .map [(.text "a", .null),
    (.text "n", .map [(.text "account", .map []), (.text "ACCOUNT", .map [])])]

/-- The table that the refused call reached counts, and the one behind its failure does not. -/
theorem merges_account_for_themselves_refusedNoun :
    (∃ warning, ((lexemes refusedNoun).run (catalogAfter [])).events = [warning] ∧
      refusedNoun.DictionaryWarning warning) ∧
    ((lexemes spelledNoun).run (catalogAfter [lexemes refusedNoun])).events =
      [.lexemesMerged 2 2] ∧
    ∃ kinds : Finset TermKind, kinds.card = 2 ∧
      ∀ kind, kind ∈ kinds ↔
        ∃ call ∈ [lexemes refusedNoun, lexemes spelledNoun], call.Reaches kind := by
  have refuses : ((lexemes refusedNoun).run (catalogAfter [])).refusesEntry = true := by
    decide +kernel
  have returns :
      ((lexemes spelledNoun).run (catalogAfter [lexemes refusedNoun])).failure = none := by
    rw [← Option.isNone_iff_eq_none]
    decide +kernel
  have tables :
      ((lexemes spelledNoun).run
        (catalogAfter [lexemes refusedNoun])).catalog.tables.length = 2 := by
    decide +kernel
  have warned := (merges_account_for_themselves [] refusedNoun).1.refused refuses
  obtain ⟨_, recorded, kinds, reached, rfl⟩ :=
    (merges_account_for_themselves [lexemes refusedNoun] spelledNoun).1.returned returns
  have sameEvents := recorded.symm.trans (Catalog.addLexemes_returned returns)
  have card : kinds.card = 2 :=
    (MergeEvent.lexemesMerged.inj (List.cons.inj sameEvents).1).2.trans tables
  refine ⟨warned, ?_, kinds, card, reached⟩
  rw [recorded, card]
  rfl

end MergeCall
end Concord
