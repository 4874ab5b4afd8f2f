import Concord.Proofs.Catalog.History
import Concord.Proofs.Intake.Distinct
import Concord.Proofs.Text.Folding

/-!
# Where lexemes are filed

A lexeme is filed under the normal form of its name, and a name is looked up by
its normal form.  Since a normal form is its own normal form, every key of a
table leads back to the lexeme that is filed there, and no two keys of a table
that ignores letter case differ in it alone.
-/

namespace Concord

namespace Catalog

/-- A key under which a name is filed is filed under itself. -/
theorem filingKey_filingKey (kind : TermKind) (name : String) :
    filingKey kind (filingKey kind name) = filingKey kind name := by
  unfold filingKey
  split
  · exact Text.caseFolded_caseFolded name
  · rfl

/-- The keys of the table of a kind are normal forms, and each stands there once. -/
structure IsOrderly (catalog : Catalog) (kind : TermKind) : Prop where
  /-- Every key is the key under which it would itself be filed. -/
  normal : ∀ key ∈ Table.keys (catalog.tableOf kind), filingKey kind key = key
  /-- No key stands there twice. -/
  distinct : (Table.keys (catalog.tableOf kind)).Nodup

/-- Filing a lexeme changes the table of its own kind only, under the filing key of the name. -/
theorem tableOf_putLexeme
    (catalog : Catalog)
    (kind other : TermKind)
    (name : String)
    (lexeme : Lexeme) :
    (catalog.putLexeme kind name lexeme).tableOf other =
      if kind = other then (catalog.tableOf other).insert (filingKey other name) lexeme
      else catalog.tableOf other := by
  by_cases same : kind = other
  · subst same
    simp [putLexeme, tableOf]
  · simp [putLexeme, tableOf, same]

variable {catalog : Catalog} {kind : TermKind}

/-- A change files under a normal form only, and never a second time under the same one. -/
theorem IsOrderly.applyTo
    (orderly : catalog.IsOrderly kind)
    (change : CatalogChange) :
    (change.applyTo catalog).IsOrderly kind := by
  cases change with
  | opened other =>
      have sameTable := catalog.tableOf_openTable other kind
      exact ⟨sameTable ▸ orderly.normal, sameTable ▸ orderly.distinct⟩
  | labelled id body => exact ⟨orderly.normal, orderly.distinct⟩
  | filed other name lexeme =>
      have filed := catalog.tableOf_putLexeme other kind name lexeme
      rw [CatalogChange.applyTo]
      split at filed
      case isFalse => exact ⟨filed ▸ orderly.normal, filed ▸ orderly.distinct⟩
      case isTrue =>
        constructor
        · intro key present
          rw [filed, Table.mem_keys_insert] at present
          rcases present with rfl | earlier
          · exact filingKey_filingKey kind name
          · exact orderly.normal key earlier
        · rw [filed]
          exact Table.nodup_keys_insert orderly.distinct _ lexeme

/-- Any changes leave the keys of a table normal and distinct. -/
theorem IsOrderly.applyAllTo
    (orderly : catalog.IsOrderly kind)
    (changes : List CatalogChange) :
    (CatalogChange.applyAllTo catalog changes).IsOrderly kind := by
  unfold CatalogChange.applyAllTo
  induction changes generalizing catalog with
  | nil => exact orderly
  | cons change rest inductionHypothesis => exact inductionHypothesis (orderly.applyTo change)

/-- After any calls the keys of every table are normal and distinct. -/
theorem isOrderly_catalogAfter (calls : List MergeCall) (kind : TermKind) :
    (MergeCall.catalogAfter calls).IsOrderly kind := by
  have empty : Catalog.empty.IsOrderly kind :=
    ⟨fun key present => (List.not_mem_nil present).elim, List.nodup_nil⟩
  rw [MergeCall.catalogAfter_eq]
  exact empty.applyAllTo (MergeCall.history calls)

/-- Keys that are filed under themselves differ in more than letter case. -/
theorem IsOrderly.nodup_caseFolded
    (orderly : catalog.IsOrderly kind)
    (ignoresCase : kind.ignoresCase = true) :
    ((Table.keys (catalog.tableOf kind)).map Text.caseFolded).Nodup := by
  have folded : (Table.keys (catalog.tableOf kind)).map Text.caseFolded =
      Table.keys (catalog.tableOf kind) := by
    conv_rhs => rw [← List.map_id (Table.keys (catalog.tableOf kind))]
    apply List.map_congr_left
    intro key present
    have normal := orderly.normal key present
    rwa [filingKey, if_pos ignoresCase] at normal
  rw [folded]
  exact orderly.distinct

theorem find_text
    (catalog : Catalog)
    {kindName : Value}
    (named : TermKind.named? kindName = some kind)
    (name : String) :
    catalog.find kindName (.text name) = .ok (catalog.lexeme? kind name) :=
  catalog.find_of_nameOf named (by simp) (Value.written_text name)

/--
After any calls, the failing ones included, every key of a table is the normal
form of itself and leads to the lexeme that stands there; a name leads to a
lexeme exactly if its normal form is a key; and no key stands twice, not even in
another letter case where that is ignored.
-/
theorem lexemes_found_under_keys
    {kindName : Value}
    {kind : TermKind}
    (named : TermKind.named? kindName = some kind)
    (calls : List MergeCall) :
    let catalog := MergeCall.catalogAfter calls
    let keys := Table.keys (catalog.tableOf kind)
    (∀ key lexeme, (key, lexeme) ∈ catalog.tableOf kind ->
      filingKey kind key = key ∧ catalog.find kindName (.text key) = .ok (some lexeme)) ∧
    (∀ name, ∃ found, catalog.find kindName (.text name) = .ok found ∧
      (found.isSome = true ↔ filingKey kind name ∈ keys)) ∧
    keys.Nodup ∧
    (kind.ignoresCase = true -> (keys.map Text.caseFolded).Nodup) := by
  intro catalog keys
  have orderly : catalog.IsOrderly kind := isOrderly_catalogAfter calls kind
  refine ⟨?_, ?_, orderly.distinct, orderly.nodup_caseFolded⟩
  · intro key lexeme present
    have normal := orderly.normal key (List.mem_map_of_mem present)
    refine ⟨normal, ?_⟩
    rw [find_text catalog named, lexeme?, normal, Table.get?_of_mem orderly.distinct present]
  · intro name
    exact ⟨_, find_text catalog named name, Table.isSome_get?_iff _ (filingKey kind name)⟩

/--
A call that files two spellings of one name before it fails, and a call that
files the name in capitals in the table of another kind.
-/
def spelledCalls : List MergeCall :=
  [.lexemes (.map [(.text "n", .map [(.text "Straße", .map [(.text "l", .text "first")]),
      (.text "STRASSE", .map [(.text "l", .text "second")]), (.text "Weg", .integer 3)])]),
    .lexemes (.map [(.text "d", .map [(.text "STRASSE", .map [])])])]

/-- Both spellings lead to the lexeme under the key that they share, and the lost name to none. -/
theorem lexemes_found_under_keys_spelled :
    TermKind.named? (.text "n") = some .noun ∧
      Table.keys ((MergeCall.catalogAfter spelledCalls).tableOf .noun) = ["strasse"] ∧
      (MergeCall.catalogAfter spelledCalls).find (.text "n") (.text "strasse") =
        .ok (some ⟨some "second", [], none, .noun none none⟩) ∧
      (∃ found, (MergeCall.catalogAfter spelledCalls).find (.text "n") (.text "STRAßE") =
        .ok found ∧ found.isSome = true) ∧
      (MergeCall.catalogAfter spelledCalls).find (.text "n") (.text "Weg") = .ok none := by
  have named : TermKind.named? (.text "n") = some .noun := rfl
  have table : (MergeCall.catalogAfter spelledCalls).tableOf .noun =
      [("strasse", ⟨some "second", [], none, .noun none none⟩)] := by
    decide +kernel
  obtain ⟨stored, answered, -⟩ := lexemes_found_under_keys named spelledCalls
  rw [table] at stored answered
  obtain ⟨first, spelled, isKey⟩ := answered "STRAßE"
  obtain ⟨second, lost, isNoKey⟩ := answered "Weg"
  have noneFound : second = none := by
    rw [← Option.not_isSome_iff_eq_none, isNoKey]
    decide +kernel
  refine ⟨named, by rw [table]; rfl, (stored _ _ List.mem_cons_self).2, ?_, ?_⟩
  · exact ⟨first, spelled, isKey.mpr (by decide +kernel)⟩
  · rw [lost, noneFound]

end Catalog
end Concord
