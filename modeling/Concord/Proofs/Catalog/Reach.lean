import Concord.Proofs.Catalog.Ingestion

/-!
# What a merge reaches

A merge goes through its entries in order and stops behind the first one that
does not merge.  So it reaches an entry exactly if all entries before it merge,
and what it opens, writes and refuses can be told from the data alone.
-/

namespace Concord

/-- An item that a walk through a list reaches: it passes every item before it. -/
inductive IsReached {α : Type} (passes : α -> Prop) (item : α) : List α -> Prop
  | here {rest : List α} : IsReached passes item (item :: rest)
  | later
      {first : α}
      {rest : List α}
      (passed : passes first)
      (reached : IsReached passes item rest) :
      IsReached passes item (first :: rest)

namespace IsReached

variable {α : Type} {passes : α -> Prop} {item first : α} {items rest : List α}

/-- A walk reaches the first item, and a later one if it passes the first. -/
theorem cons_iff :
    IsReached passes item (first :: rest) ↔
      first = item ∨ passes first ∧ IsReached passes item rest := by
  constructor
  · intro reached
    cases reached with
    | here => exact .inl rfl
    | later passed reached => exact .inr ⟨passed, reached⟩
  · rintro (rfl | ⟨passed, reached⟩)
    · exact .here
    · exact .later passed reached

theorem congr
    {passesToo : α -> Prop}
    (same : ∀ item, passes item ↔ passesToo item) :
    IsReached passes item items ↔ IsReached passesToo item items := by
  rw [show passes = passesToo from funext fun item => propext (same item)]

end IsReached

/-! ## Entries that merge -/

/-- An entry of a table that merges: a lexeme under a name that can be written. -/
def IsLexemeEntry (kind : TermKind) (entry : Value × Value) : Prop :=
  (∃ lexeme, Lexeme.ofValue kind entry.2 = .ok lexeme) ∧
    ∃ name, Catalog.nameOf entry.1 = .ok name

/-- A value that merges as the table of a kind, down to the names in it. -/
def Value.MergesAsTable (kind : TermKind) : Value -> Prop
  | .map entries => ∀ entry ∈ entries, IsLexemeEntry kind entry
  | value => value.isBlank = true

/-- An entry of a dictionary that merges: a table under the name of a kind. -/
def IsTableEntry (entry : Value × Value) : Prop :=
  ∃ kind, TermKind.ofValue entry.1 = .ok kind ∧ entry.2.MergesAsTable kind

/-- An entry of a labelling that merges: a body under a name that can be written. -/
def IsLabelEntry (entry : Value × Value) : Prop :=
  (∃ body, Body.ofValue entry.2 = .ok body) ∧ ∃ name, entry.1.written = .ok name

/-- A mapping of kinds to tables that merges as a whole. -/
def Value.IsDictionary : Value -> Prop
  | .map entries => ∀ entry ∈ entries, IsTableEntry entry
  | _ => False

/-- A mapping of labels to bodies that merges as a whole. -/
def Value.IsLabelling : Value -> Prop
  | .map entries => ∀ entry ∈ entries, IsLabelEntry entry
  | _ => False

/-! ## What calls open and write -/

/-- A call reaches the table of a kind, whether or not it merges. -/
inductive MergeCall.Reaches (kind : TermKind) : MergeCall -> Prop
  | lexemes
      {entries : List (Value × Value)}
      {key table : Value}
      (reached : IsReached IsTableEntry (key, table) entries)
      (named : TermKind.ofValue key = .ok kind) :
      Reaches kind (.lexemes (.map entries))
  | bundle
      {data lexemes labels : Value}
      (shape : Catalog.sections data = .ok (lexemes, labels))
      (reaches : Reaches kind (.lexemes lexemes)) :
      Reaches kind (.bundle data)

/-- A call gives a body to the label of a name; a bundle does so once all its lexemes are merged. -/
inductive MergeCall.GivesBody (name : String) : MergeCall -> Prop
  | labels
      {entries : List (Value × Value)}
      {id raw : Value}
      {body : Body}
      (reached : IsReached IsLabelEntry (id, raw) entries)
      (read : Body.ofValue raw = .ok body)
      (written : id.written = .ok name) :
      GivesBody name (.labels (.map entries))
  | bundle
      {data lexemes labels : Value}
      (shape : Catalog.sections data = .ok (lexemes, labels))
      (whole : lexemes.IsDictionary)
      (gives : GivesBody name (.labels labels)) :
      GivesBody name (.bundle data)

/-! ## What is refused -/

/-- The warning about a lexeme that is refused. -/
def LexemeWarning (kind : TermKind) (entry : Value × Value) (warning : MergeEvent) : Prop :=
  ∃ refusal, Lexeme.ofValue kind entry.2 = .error refusal ∧
    warning = .lexemeRejected kind entry.1 refusal.message

/-- The warning about a label whose body is refused. -/
def LabelWarning (entry : Value × Value) (warning : MergeEvent) : Prop :=
  ∃ refusal, Body.ofValue entry.2 = .error (.refused refusal) ∧
    warning = .labelRejected entry.1 refusal.message

/-- The warning about a table: that its key names no kind, or that a lexeme in it is refused. -/
inductive TableWarning : Value × Value -> MergeEvent -> Prop
  | kind
      {key table : Value}
      {refusal : Refusal}
      (unnamed : TermKind.ofValue key = .error (.refused refusal)) :
      TableWarning (key, table) (.kindRejected key)
  | lexeme
      {key : Value}
      {kind : TermKind}
      {entry : Value × Value}
      {entries : List (Value × Value)}
      {warning : MergeEvent}
      (named : TermKind.ofValue key = .ok kind)
      (reached : IsReached (IsLexemeEntry kind) entry entries)
      (refused : LexemeWarning kind entry warning) :
      TableWarning (key, .map entries) warning

/-- The warning about the first entry of a dictionary that does not merge. -/
def Value.DictionaryWarning : Value -> MergeEvent -> Prop
  | .map entries, warning =>
      ∃ entry, IsReached IsTableEntry entry entries ∧ TableWarning entry warning
  | _, _ => False

/-- The warning about the first entry of a labelling that does not merge. -/
def Value.LabellingWarning : Value -> MergeEvent -> Prop
  | .map entries, warning =>
      ∃ entry, IsReached IsLabelEntry entry entries ∧ LabelWarning entry warning
  | _, _ => False

namespace MergeStep

/-! ## Steps in a row -/

section

variable {α : Type} (steps : α -> List MergeStep)

/-- The steps of many items come to their end exactly if those of every item do. -/
theorem firstFailure?_flatMap_eq_none_iff (items : List α) :
    firstFailure? (items.flatMap steps) = none ↔
      ∀ item ∈ items, firstFailure? (steps item) = none := by
  induction items with
  | nil => simp [firstFailure?]
  | cons first rest inductionHypothesis =>
      rw [List.flatMap_cons, firstFailure?_append, Option.or_eq_none_iff, inductionHypothesis,
        List.forall_mem_cons]

/--
A property that two lists of steps in a row get from the first one, or from the
second one if the first does not fail, is got by the steps of many items from
those of an item that is reached.
-/
theorem holds_flatMap_iff
    (holds : List MergeStep -> Prop)
    (holds_nil : ¬ holds [])
    (holds_append : ∀ before after, holds (before ++ after) ↔
      holds before ∨ firstFailure? before = none ∧ holds after)
    (items : List α) :
    holds (items.flatMap steps) ↔
      ∃ item, IsReached (fun item => firstFailure? (steps item) = none) item items ∧
        holds (steps item) := by
  induction items with
  | nil =>
      constructor
      · exact fun holdsNil => (holds_nil holdsNil).elim
      · rintro ⟨item, ⟨⟩, _⟩
  | cons first rest inductionHypothesis =>
      rw [List.flatMap_cons, holds_append, inductionHypothesis]
      constructor
      · rintro (own | ⟨passed, item, reached, later⟩)
        · exact ⟨first, .here, own⟩
        · exact ⟨item, .later passed reached, later⟩
      · rintro ⟨item, reached, own⟩
        rcases IsReached.cons_iff.mp reached with rfl | ⟨passed, reachedLater⟩
        · exact .inl own
        · exact .inr ⟨passed, item, reachedLater, own⟩

/-- A change behind some steps counts only if these come to their end. -/
theorem mem_changesBeforeFailure_append_iff
    (change : CatalogChange)
    (before after : List MergeStep) :
    change ∈ changesBeforeFailure (before ++ after) ↔
      change ∈ changesBeforeFailure before ∨
        firstFailure? before = none ∧ change ∈ changesBeforeFailure after := by
  cases outcome : firstFailure? before with
  | none => simp [changesBeforeFailure_append_of_none outcome]
  | some failure => simp [changesBeforeFailure_append_of_some outcome]

/-- A change counts exactly if it is one of an item that is reached. -/
theorem mem_changesBeforeFailure_flatMap_iff (items : List α) (change : CatalogChange) :
    change ∈ changesBeforeFailure (items.flatMap steps) ↔
      ∃ item, IsReached (fun item => firstFailure? (steps item) = none) item items ∧
        change ∈ changesBeforeFailure (steps item) :=
  holds_flatMap_iff steps (fun steps => change ∈ changesBeforeFailure steps) List.not_mem_nil
    (mem_changesBeforeFailure_append_iff change) items

/-- The first of some steps that fails does so by refusing an entry, which leaves a warning. -/
def Warns (steps : List MergeStep) (warning : MergeEvent) : Prop :=
  ∃ failure, firstFailure? steps = some failure ∧ failure.events = [warning]

/-- A warning behind some steps counts only if these come to their end. -/
theorem warns_append_iff (warning : MergeEvent) (before after : List MergeStep) :
    Warns (before ++ after) warning ↔
      Warns before warning ∨ firstFailure? before = none ∧ Warns after warning := by
  simp only [Warns, firstFailure?_append]
  cases firstFailure? before with
  | none => simp
  | some failure => simp

/-- A warning is left exactly if it is one of an item that is reached. -/
theorem warns_flatMap_iff (items : List α) (warning : MergeEvent) :
    Warns (items.flatMap steps) warning ↔
      ∃ item, IsReached (fun item => firstFailure? (steps item) = none) item items ∧
        Warns (steps item) warning := by
  refine holds_flatMap_iff steps (fun steps => Warns steps warning) ?_
    (warns_append_iff warning) items
  rintro ⟨failure, ⟨⟩, _⟩

end

/-! ## Single entries -/

variable {kind : TermKind} {key raw table : Value} {warning : MergeEvent}

theorem firstFailure?_fileLexeme_eq_none_iff :
    firstFailure? [fileLexeme kind key raw] = none ↔ IsLexemeEntry kind (key, raw) := by
  cases read : Lexeme.ofValue kind raw <;> cases named : Catalog.nameOf key <;>
    simp [firstFailure?, change, IsLexemeEntry, read, named]

theorem firstFailure?_giveLabel_eq_none_iff :
    firstFailure? [giveLabel key raw] = none ↔ IsLabelEntry (key, raw) := by
  cases read : Body.ofValue raw <;> cases named : key.written <;>
    simp [firstFailure?, change, IsLabelEntry, read, named]

theorem warns_fileLexeme_iff :
    Warns [fileLexeme kind key raw] warning ↔ LexemeWarning kind (key, raw) warning := by
  cases read : Lexeme.ofValue kind raw <;> cases named : Catalog.nameOf key <;>
    simp [Warns, LexemeWarning, firstFailure?, change, MergeFailure.events, eq_comm, read, named]

theorem warns_giveLabel_iff :
    Warns [giveLabel key raw] warning ↔ LabelWarning (key, raw) warning := by
  rcases read : Body.ofValue raw with (_ | _) | body <;> cases named : key.written <;>
    simp [Warns, LabelWarning, firstFailure?, change, MergeFailure.events, MergeFailure.ofFault,
      eq_comm, read, named]

theorem labelled_mem_giveLabel_iff {name : String} {body : Body} :
    .labelled name body ∈ changesBeforeFailure [giveLabel key raw] ↔
      Body.ofValue raw = .ok body ∧ key.written = .ok name := by
  cases read : Body.ofValue raw <;> cases named : key.written <;>
    simp [changesBeforeFailure, change, eq_comm, and_comm, read, named]

/-! ## The table of one kind -/

theorem ofEntries_map (kind : TermKind) (entries : List (Value × Value)) :
    ofEntries kind (.map entries) =
      entries.flatMap fun entry => [fileLexeme kind entry.1 entry.2] :=
  List.map_eq_flatMap

theorem isReached_lexeme_iff {entry : Value × Value} {entries : List (Value × Value)} :
    IsReached (fun entry => firstFailure? [fileLexeme kind entry.1 entry.2] = none) entry entries ↔
      IsReached (IsLexemeEntry kind) entry entries :=
  IsReached.congr fun _ => firstFailure?_fileLexeme_eq_none_iff

/-- A table is filled to its end exactly if it merges as one. -/
theorem firstFailure?_ofEntries_eq_none_iff_mergesAsTable :
    firstFailure? (ofEntries kind table) = none ↔ table.MergesAsTable kind := by
  cases table with
  | map entries =>
      rw [ofEntries_map, firstFailure?_flatMap_eq_none_iff]
      exact forall₂_congr fun entry _ => firstFailure?_fileLexeme_eq_none_iff
  | _ =>
      simp only [ofEntries, Value.MergesAsTable]
      split <;> simp_all [firstFailure?, change]

/-- A table that is no mapping fails without a warning, if it fails at all. -/
theorem warns_ofEntries_iff :
    Warns (ofEntries kind table) warning ↔
      ∃ entries entry, table = .map entries ∧ IsReached (IsLexemeEntry kind) entry entries ∧
        LexemeWarning kind entry warning := by
  cases table with
  | map entries =>
      rw [ofEntries_map, warns_flatMap_iff]
      simp [isReached_lexeme_iff, warns_fileLexeme_iff]
  | _ =>
      simp only [ofEntries]
      split <;> simp [Warns, firstFailure?, change, MergeFailure.events]

theorem firstFailure?_ofTable_eq_none_iff :
    firstFailure? (ofTable key table) = none ↔ IsTableEntry (key, table) := by
  cases named : TermKind.ofValue key with
  | error fault => simp [ofTable, firstFailure?, change, IsTableEntry, named]
  | ok kind =>
      rw [firstFailure?_ofTable named, firstFailure?_ofEntries_eq_none_iff_mergesAsTable]
      simp [IsTableEntry, named]

/-- A table leaves the warning about its key or about the first lexeme in it that is refused. -/
theorem warns_ofTable_iff :
    Warns (ofTable key table) warning ↔ TableWarning (key, table) warning := by
  constructor
  · intro warns
    cases named : TermKind.ofValue key with
    | error fault =>
        obtain ⟨failure, failed, leaves⟩ := warns
        simp only [ofTable, named, firstFailure?, change, Option.some.injEq] at failed
        subst failed
        cases fault with
        | refused refusal =>
            obtain rfl : MergeEvent.kindRejected key = warning := by
              simpa [MergeFailure.ofFault, MergeFailure.events] using leaves
            exact .kind named
        | number error => simp [MergeFailure.ofFault, MergeFailure.events] at leaves
    | ok kind =>
        rw [Warns, firstFailure?_ofTable named] at warns
        obtain ⟨entries, entry, rfl, reached, refused⟩ := warns_ofEntries_iff.mp warns
        exact .lexeme named reached refused
  · intro warned
    cases warned with
    | @kind _ _ refusal unnamed =>
        have failed : firstFailure? (ofTable key table) = some (.badKind key refusal) := by
          simp only [ofTable, unnamed, firstFailure?, change, MergeFailure.ofFault]
        exact ⟨_, failed, rfl⟩
    | lexeme named reached refused =>
        rw [Warns, firstFailure?_ofTable named]
        exact warns_ofEntries_iff.mpr ⟨_, _, rfl, reached, refused⟩

/-- The table of a kind is opened as soon as it is reached. -/
theorem opened_mem_ofTable_iff :
    .opened kind ∈ changesBeforeFailure (ofTable key table) ↔
      TermKind.ofValue key = .ok kind := by
  cases named : TermKind.ofValue key with
  | error fault => simp [ofTable, changesBeforeFailure, change, named]
  | ok own =>
      have noneInside :
          CatalogChange.opened kind ∉ changesBeforeFailure (ofEntries own table) := by
        intro present
        obtain ⟨name, lexeme, filed⟩ := filed_of_mem_ofEntries present
        cases filed
      simp [ofTable, changesBeforeFailure, change, named, noneInside, eq_comm]

theorem labelled_not_mem_ofTable {name : String} {body : Body} :
    CatalogChange.labelled name body ∉ changesBeforeFailure (ofTable key table) := by
  intro present
  cases named : TermKind.ofValue key with
  | error fault => simp [ofTable, changesBeforeFailure, change, named] at present
  | ok kind =>
      simp only [ofTable, named, changesBeforeFailure, change, List.mem_cons, reduceCtorEq,
        false_or] at present
      obtain ⟨filedName, lexeme, filed⟩ := filed_of_mem_ofEntries present
      cases filed

/-! ## Dictionaries and labellings -/

variable {data : Value} {entries : List (Value × Value)} {name : String}

theorem ofLabels_map (entries : List (Value × Value)) :
    ofLabels (.map entries) = entries.flatMap fun entry => [giveLabel entry.1 entry.2] :=
  List.map_eq_flatMap

theorem isReached_table_iff {entry : Value × Value} :
    IsReached (fun entry => firstFailure? (ofTable entry.1 entry.2) = none) entry entries ↔
      IsReached IsTableEntry entry entries :=
  IsReached.congr fun _ => firstFailure?_ofTable_eq_none_iff

theorem isReached_label_iff {entry : Value × Value} :
    IsReached (fun entry => firstFailure? [giveLabel entry.1 entry.2] = none) entry entries ↔
      IsReached IsLabelEntry entry entries :=
  IsReached.congr fun _ => firstFailure?_giveLabel_eq_none_iff

/-- Lexemes are merged to their end exactly if they form a dictionary. -/
theorem firstFailure?_ofLexemes_eq_none_iff :
    firstFailure? (ofLexemes data) = none ↔ data.IsDictionary := by
  cases data with
  | map entries =>
      rw [ofLexemes, firstFailure?_flatMap_eq_none_iff]
      exact forall₂_congr fun entry _ => firstFailure?_ofTable_eq_none_iff
  | _ => simp [ofLexemes, firstFailure?, change, Value.IsDictionary]

/-- Labels are merged to their end exactly if they form a labelling. -/
theorem firstFailure?_ofLabels_eq_none_iff :
    firstFailure? (ofLabels data) = none ↔ data.IsLabelling := by
  cases data with
  | map entries =>
      rw [ofLabels_map, firstFailure?_flatMap_eq_none_iff]
      exact forall₂_congr fun entry _ => firstFailure?_giveLabel_eq_none_iff
  | _ => simp [ofLabels, firstFailure?, change, Value.IsLabelling]

/-- Lexemes leave the warning about the first entry of the dictionary that does not merge. -/
theorem warns_ofLexemes_iff :
    Warns (ofLexemes data) warning ↔ data.DictionaryWarning warning := by
  cases data with
  | map entries =>
      rw [ofLexemes, warns_flatMap_iff]
      simp only [isReached_table_iff, warns_ofTable_iff]
      rfl
  | _ =>
      simp [ofLexemes, Warns, firstFailure?, change, MergeFailure.events, Value.DictionaryWarning]

/-- Labels leave the warning about the first of them that does not merge. -/
theorem warns_ofLabels_iff :
    Warns (ofLabels data) warning ↔ data.LabellingWarning warning := by
  cases data with
  | map entries =>
      rw [ofLabels_map, warns_flatMap_iff]
      simp only [isReached_label_iff, warns_giveLabel_iff]
      rfl
  | _ =>
      simp [ofLabels, Warns, firstFailure?, change, MergeFailure.events, Value.LabellingWarning]

/-- The steps of lexemes open the tables that the merge reaches. -/
theorem opened_mem_ofLexemes_iff :
    .opened kind ∈ changesBeforeFailure (ofLexemes data) ↔
      (MergeCall.lexemes data).Reaches kind := by
  cases data with
  | map entries =>
      rw [ofLexemes, mem_changesBeforeFailure_flatMap_iff]
      simp only [isReached_table_iff, opened_mem_ofTable_iff]
      constructor
      · rintro ⟨entry, reached, named⟩
        exact .lexemes reached named
      · rintro (⟨reached, named⟩)
        exact ⟨_, reached, named⟩
  | _ =>
      constructor
      · intro present
        cases present
      · intro reaches
        cases reaches

theorem opened_not_mem_ofLabels :
    CatalogChange.opened kind ∉ changesBeforeFailure (ofLabels data) := by
  intro present
  obtain ⟨name, body, labelled⟩ := labelled_of_mem_ofLabels present
  cases labelled

/-- The steps of labels give bodies to the labels that the merge reaches. -/
theorem labelled_mem_ofLabels_iff :
    (∃ body, .labelled name body ∈ changesBeforeFailure (ofLabels data)) ↔
      (MergeCall.labels data).GivesBody name := by
  cases data with
  | map entries =>
      rw [ofLabels_map]
      simp only [mem_changesBeforeFailure_flatMap_iff, isReached_label_iff,
        labelled_mem_giveLabel_iff]
      constructor
      · rintro ⟨body, entry, reached, read, written⟩
        exact .labels reached read written
      · rintro (⟨reached, read, written⟩)
        exact ⟨_, _, reached, read, written⟩
  | _ =>
      constructor
      · rintro ⟨body, ⟨⟩⟩
      · intro gives
        cases gives

theorem labelled_not_mem_ofLexemes {body : Body} :
    CatalogChange.labelled name body ∉ changesBeforeFailure (ofLexemes data) := by
  intro present
  cases data with
  | map entries =>
      rw [ofLexemes, mem_changesBeforeFailure_flatMap_iff] at present
      obtain ⟨entry, _, present⟩ := present
      exact labelled_not_mem_ofTable present
  | _ => cases present

end MergeStep

namespace MergeCall

/-! ## Calls -/

/-- A call opens exactly the tables that it reaches. -/
theorem opened_mem_changes_iff (call : MergeCall) (kind : TermKind) :
    .opened kind ∈ call.changes ↔ call.Reaches kind := by
  cases call with
  | lexemes data => exact MergeStep.opened_mem_ofLexemes_iff
  | labels data =>
      constructor
      · intro present
        exact (MergeStep.opened_not_mem_ofLabels present).elim
      · intro reaches
        cases reaches
  | bundle data =>
      cases shape : Catalog.sections data with
      | error fault =>
          constructor
          · intro present
            simp [changes, steps, MergeStep.ofBundle, MergeStep.changesBeforeFailure,
              MergeStep.change, shape] at present
          · rintro (_ | ⟨found, _⟩)
            cases shape.symm.trans found
      | ok parts =>
          obtain ⟨terms, names⟩ := parts
          simp only [changes, steps, MergeStep.ofBundle, shape,
            MergeStep.mem_changesBeforeFailure_append_iff, MergeStep.opened_mem_ofLexemes_iff,
            MergeStep.opened_not_mem_ofLabels, and_false, or_false]
          constructor
          · exact .bundle shape
          · rintro (_ | ⟨found, reaches⟩)
            obtain ⟨rfl, -⟩ := Prod.mk.inj (Except.ok.inj (shape.symm.trans found))
            exact reaches

/-- A call writes bodies for exactly the labels that it gives one. -/
theorem labelled_mem_changes_iff (call : MergeCall) (name : String) :
    (∃ body, .labelled name body ∈ call.changes) ↔ call.GivesBody name := by
  cases call with
  | lexemes data =>
      constructor
      · rintro ⟨body, present⟩
        exact (MergeStep.labelled_not_mem_ofLexemes present).elim
      · intro gives
        cases gives
  | labels data => exact MergeStep.labelled_mem_ofLabels_iff
  | bundle data =>
      cases shape : Catalog.sections data with
      | error fault =>
          constructor
          · rintro ⟨body, present⟩
            simp [changes, steps, MergeStep.ofBundle, MergeStep.changesBeforeFailure,
              MergeStep.change, shape] at present
          · rintro (_ | ⟨found, _, _⟩)
            cases shape.symm.trans found
      | ok parts =>
          obtain ⟨terms, names⟩ := parts
          simp only [changes, steps, MergeStep.ofBundle, shape,
            MergeStep.mem_changesBeforeFailure_append_iff, MergeStep.labelled_not_mem_ofLexemes,
            MergeStep.firstFailure?_ofLexemes_eq_none_iff, false_or, exists_and_left,
            MergeStep.labelled_mem_ofLabels_iff]
          constructor
          · rintro ⟨whole, gives⟩
            exact .bundle shape whole gives
          · rintro (_ | ⟨found, whole, gives⟩)
            obtain ⟨rfl, rfl⟩ := Prod.mk.inj (Except.ok.inj (shape.symm.trans found))
            exact ⟨whole, gives⟩

end MergeCall
end Concord
