import Concord.Catalog.Basic
import Concord.Text.Quoted

/-!
# Merging into a catalog

Tables of lexemes, labels, and bundles of both are merged entry by entry.  A
merge that fails keeps the entries before the failure.  Every merge that ends
well is recorded as an event with its counts, and every refused entry as a
warning.  An entry that would have to be written and cannot be stops the merge
too, and is not recorded.
-/

namespace Concord

/-- What is wrong with the outer shape of a bundle. -/
inductive BundleFault
  | notARecord (typeName : String)
  | sectionsNotRecords
  deriving DecidableEq

/-- The wording of a fault. -/
def BundleFault.message : BundleFault -> String
  | .notARecord typeName => "Bundle must be an object, got " ++ typeName
  | .sectionsNotRecords => "Bundle 'terms' and 'labels' must be objects"

/-- Why a merge stopped. -/
inductive MergeFailure
  | notAMapping (typeName : String)
  | badBundle (fault : BundleFault)
  | badKind (key : Value) (refusal : Refusal)
  | badLexeme (kind : TermKind) (key : Value) (refusal : Refusal)
  | badLabel (id : Value) (refusal : Refusal)
  | number (error : NumberError)

/-- What a merge records. -/
inductive MergeEvent
  | lexemesMerged (count tables : Nat)
  | labelsMerged (count total : Nat)
  | kindRejected (key : Value)
  | lexemeRejected (kind : TermKind) (key : Value) (message : String)
  | labelRejected (id : Value) (message : String)

namespace MergeEvent

/-- The name under which an event is recorded. -/
def name : MergeEvent -> String
  | .lexemesMerged _ _ => "terms_merged"
  | .labelsMerged _ _ => "labels_merged"
  | .kindRejected _ => "term_table_rejected"
  | .lexemeRejected _ _ _ => "term_rejected"
  | .labelRejected _ _ => "label_rejected"

/-- The level at which an event is recorded. -/
def level : MergeEvent -> String
  | .lexemesMerged _ _ => "debug"
  | .labelsMerged _ _ => "debug"
  | .kindRejected _ => "warning"
  | .lexemeRejected _ _ _ => "warning"
  | .labelRejected _ _ => "warning"

/-- What is recorded with an event, by name. -/
def fields : MergeEvent -> List (String × Value)
  | .lexemesMerged count tables => [("count", .integer count), ("tables", .integer tables)]
  | .labelsMerged count total => [("count", .integer count), ("total", .integer total)]
  | .kindRejected key => [("term_type", key)]
  | .lexemeRejected kind key message =>
      [("term_type", .text kind.letter), ("key", key), ("error", .text message)]
  | .labelRejected id message => [("label_id", id), ("error", .text message)]

end MergeEvent

/-- The wording of a failure. -/
def MergeFailure.message : MergeFailure -> String
  | .notAMapping typeName => Text.quoted typeName ++ " object has no attribute 'items'"
  | .badBundle fault => fault.message
  | .badKind _ refusal => refusal.message
  | .badLexeme _ _ refusal => refusal.message
  | .badLabel _ refusal => refusal.message
  | .number error => error.message

/-- The warning that a failure leaves behind; only a refused entry leaves one. -/
def MergeFailure.events : MergeFailure -> List MergeEvent
  | .notAMapping _ => []
  | .badBundle _ => []
  | .badKind key _ => [.kindRejected key]
  | .badLexeme kind key refusal => [.lexemeRejected kind key refusal.message]
  | .badLabel id refusal => [.labelRejected id refusal.message]
  | .number _ => []

/-- What a failure leaves behind is recorded as a warning. -/
theorem MergeFailure.level_of_mem_events
    {failure : MergeFailure}
    {event : MergeEvent}
    (left : event ∈ failure.events) :
    event.level = "warning" := by
  cases failure with
  | badKind key refusal => rw [List.mem_singleton.mp left]; rfl
  | badLexeme kind key refusal => rw [List.mem_singleton.mp left]; rfl
  | badLabel id refusal => rw [List.mem_singleton.mp left]; rfl
  | _ => cases left

/-- The failure of an entry that could not be read. -/
def MergeFailure.ofFault (refused : Refusal -> MergeFailure) : ReadingFault -> MergeFailure
  | .refused refusal => refused refusal
  | .number error => .number error

/-- A catalog after a merge, what was recorded, and why the merge stopped if it did. -/
structure Merge where
  /-- The catalog with all entries before the failure merged. -/
  catalog : Catalog
  /-- What was recorded, in order. -/
  events : List MergeEvent
  /-- Why the merge stopped, unless it came to its end. -/
  failure : Option MergeFailure

namespace Catalog

/-- Merge the entries of the table of one kind and count them. -/
def mergeEntries (kind : TermKind) (catalog : Catalog) :
    List (Value × Value) -> Catalog × Except MergeFailure Nat
  | [] => (catalog, .ok 0)
  | (key, raw) :: rest =>
      match Lexeme.ofValue kind raw with
      | .error refusal => (catalog, .error (.badLexeme kind key refusal))
      | .ok lexeme =>
          match nameOf key with
          | .error error => (catalog, .error (.number error))
          | .ok name =>
              let (merged, count) := mergeEntries kind (catalog.putLexeme kind name lexeme) rest
              (merged, count.map (· + 1))

/-- Merge the table of one kind; the table is open from then on, whatever it holds. -/
def mergeTable (catalog : Catalog) (kind : TermKind) (table : Value) :
    Catalog × Except MergeFailure Nat :=
  let opened := catalog.openTable kind
  match table with
  | .map entries => mergeEntries kind opened entries
  | table =>
      if table.isBlank then
        (opened, .ok 0)
      else
        (opened, .error (.notAMapping table.fullTypeName))

/-- Merge tables in order and count all their entries. -/
def mergeTables (catalog : Catalog) : List (Value × Value) -> Catalog × Except MergeFailure Nat
  | [] => (catalog, .ok 0)
  | (key, table) :: rest =>
      match TermKind.ofValue key with
      | .error fault => (catalog, .error (.ofFault (.badKind key) fault))
      | .ok kind =>
          match catalog.mergeTable kind table with
          | (merged, .error failure) => (merged, .error failure)
          | (merged, .ok count) =>
              let (final, more) := mergeTables merged rest
              (final, more.map (count + ·))

/-- Merge label bodies in order. -/
def mergeLabels (catalog : Catalog) : List (Value × Value) -> Catalog × Except MergeFailure Unit
  | [] => (catalog, .ok ())
  | (id, raw) :: rest =>
      match Body.ofValue raw with
      | .error fault => (catalog, .error (.ofFault (.badLabel id) fault))
      | .ok body =>
          match id.written with
          | .error error => (catalog, .error (.number error))
          | .ok name => mergeLabels (catalog.putLabel name body) rest

/-- Merge a mapping of kinds to tables of lexemes. -/
def addLexemes (catalog : Catalog) (data : Value) : Merge :=
  match data with
  | .map entries =>
      match catalog.mergeTables entries with
      | (merged, .ok count) => ⟨merged, [.lexemesMerged count merged.tables.length], none⟩
      | (merged, .error failure) => ⟨merged, failure.events, some failure⟩
  | data => ⟨catalog, [], some (.notAMapping data.fullTypeName)⟩

/-- Merge a mapping of labels to bodies. -/
def addLabels (catalog : Catalog) (data : Value) : Merge :=
  match data with
  | .map entries =>
      match catalog.mergeLabels entries with
      | (merged, .ok _) =>
          ⟨merged, [.labelsMerged entries.length merged.labels.length], none⟩
      | (merged, .error failure) => ⟨merged, failure.events, some failure⟩
  | data => ⟨catalog, [], some (.notAMapping data.fullTypeName)⟩

/-- A section of a bundle; one that is missing, absent or empty counts as an empty mapping. -/
def sectionOf (entries : List (Value × Value)) (name : String) : Value :=
  match Value.find? entries (.text name) with
  | none => .map []
  | some value => if value.isBlank then .map [] else value

/-- The lexemes and labels of a bundle. -/
def sections (bundle : Value) : Except BundleFault (Value × Value) :=
  match bundle with
  | .map entries =>
      match sectionOf entries "terms", sectionOf entries "labels" with
      | .map lexemes, .map labels => .ok (.map lexemes, .map labels)
      | _, _ => .error .sectionsNotRecords
  | bundle => .error (.notARecord bundle.typeName)

/-- Merge a bundle: all lexemes before any label, and nothing if its shape is wrong. -/
def addBundle (catalog : Catalog) (bundle : Value) : Merge :=
  match sections bundle with
  | .error fault => ⟨catalog, [], some (.badBundle fault)⟩
  | .ok (lexemes, labels) =>
      let first := catalog.addLexemes lexemes
      match first.failure with
      | some _ => first
      | none =>
          let second := first.catalog.addLabels labels
          { second with events := first.events ++ second.events }

/-- A catalog made from one bundle. -/
def ofBundle (bundle : Value) : Merge :=
  empty.addBundle bundle

end Catalog
end Concord
