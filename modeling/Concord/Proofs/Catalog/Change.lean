import Concord.Catalog.Basic

/-!
# Changes of a catalog

A change opens a table, files a lexeme or gives a label its body.  After any
changes a catalog shows under every key what the last change under that key
wrote, and what it showed before if there was none.
-/

namespace Concord

/-- One thing that is written into a catalog. -/
inductive CatalogChange
  | opened (kind : TermKind)
  | filed (kind : TermKind) (name : String) (lexeme : Lexeme)
  | labelled (id : String) (body : Body)

namespace CatalogChange

/-- Write a change into a catalog. -/
def applyTo (catalog : Catalog) : CatalogChange -> Catalog
  | .opened kind => catalog.openTable kind
  | .filed kind name lexeme => catalog.putLexeme kind name lexeme
  | .labelled id body => catalog.putLabel id body

/-- Write some changes into a catalog in order. -/
def applyAllTo (catalog : Catalog) (changes : List CatalogChange) : Catalog :=
  changes.foldl applyTo catalog

/-- Whether a change opens the table of a kind. -/
def opens (kind : TermKind) : CatalogChange -> Bool
  | .opened other => other = kind
  | _ => false

/-- Whether a change concerns the table of a kind. -/
def concerns (kind : TermKind) : CatalogChange -> Bool
  | .opened other => other = kind
  | .filed other _ _ => other = kind
  | .labelled _ _ => false

/-- Whether a change gives some label its body. -/
def isLabel : CatalogChange -> Bool
  | .labelled _ _ => true
  | _ => false

/-- The lexeme that a change files in the table of a kind under the key of a name. -/
def lexemeFor? (kind : TermKind) (wanted : String) : CatalogChange -> Option Lexeme
  | .filed other name lexeme =>
      if other = kind ∧ Catalog.filingKey kind name = Catalog.filingKey kind wanted then
        some lexeme
      else
        none
  | _ => none

/-- The body that a change gives to a label. -/
def bodyFor? (wanted : String) : CatalogChange -> Option Body
  | .labelled id body => if id = wanted then some body else none
  | _ => none

/-- The lexeme that was filed last in the table of a kind under the key of a name. -/
def lastLexeme? (kind : TermKind) (wanted : String) (changes : List CatalogChange) :
    Option Lexeme :=
  (changes.filterMap (lexemeFor? kind wanted)).getLast?

/-- The body that was given last to a label. -/
def lastBody? (wanted : String) (changes : List CatalogChange) : Option Body :=
  (changes.filterMap (bodyFor? wanted)).getLast?

/-- A view of a state that every step may overwrite shows what was written last. -/
theorem view_foldl {σ ι β : Type}
    (view : σ -> Option β)
    {step : σ -> ι -> σ}
    {write : ι -> Option β}
    (overwrites : ∀ state item, view (step state item) = (write item).or (view state))
    (state : σ)
    (items : List ι) :
    view (items.foldl step state) = (items.filterMap write).getLast?.or (view state) := by
  induction items generalizing state with
  | nil => rfl
  | cons item rest inductionHypothesis =>
      rw [List.foldl_cons, inductionHypothesis, overwrites]
      cases written : write item with
      | none => simp [written]
      | some value =>
          cases later : (rest.filterMap write).getLast? <;>
            simp [written, later, List.getLast?_cons]

/--
One change shows under a name the lexeme that it files there, or else what stood
there before.
-/
theorem lexeme?_applyTo
    (kind : TermKind)
    (wanted : String)
    (catalog : Catalog)
    (change : CatalogChange) :
    (change.applyTo catalog).lexeme? kind wanted =
      (change.lexemeFor? kind wanted).or (catalog.lexeme? kind wanted) := by
  cases change with
  | opened other => simp [applyTo, lexemeFor?]
  | filed other name lexeme =>
      rw [applyTo, Catalog.lexeme?_putLexeme, lexemeFor?]
      split <;> rfl
  | labelled id body => rfl

/-- One change shows for a label the body that it gives to it, or else the one from before. -/
theorem label?_applyTo
    (wanted : String)
    (catalog : Catalog)
    (change : CatalogChange) :
    (change.applyTo catalog).label? wanted =
      (change.bodyFor? wanted).or (catalog.label? wanted) := by
  cases change with
  | opened other => rfl
  | filed other name lexeme => rfl
  | labelled id body =>
      rw [applyTo, Catalog.label?_putLabel, bodyFor?]
      split <;> rfl

theorem hasTable_applyTo
    (kind : TermKind)
    (catalog : Catalog)
    (change : CatalogChange) :
    (change.applyTo catalog).hasTable kind = (change.concerns kind || catalog.hasTable kind) := by
  cases change with
  | opened other => exact Catalog.hasTable_openTable catalog other kind
  | filed other name lexeme =>
      by_cases same : other = kind <;>
        simp [applyTo, concerns, Catalog.putLexeme, Catalog.hasTable, same]
  | labelled id body => rfl

/-- After some changes a name shows the lexeme that was filed last under its key. -/
theorem lexeme?_applyAllTo
    (kind : TermKind)
    (wanted : String)
    (catalog : Catalog)
    (changes : List CatalogChange) :
    (applyAllTo catalog changes).lexeme? kind wanted =
      (lastLexeme? kind wanted changes).or (catalog.lexeme? kind wanted) :=
  view_foldl (fun catalog => catalog.lexeme? kind wanted)
    (lexeme?_applyTo kind wanted) catalog changes

/-- After some changes a label shows the body that it was given last. -/
theorem label?_applyAllTo
    (wanted : String)
    (catalog : Catalog)
    (changes : List CatalogChange) :
    (applyAllTo catalog changes).label? wanted =
      (lastBody? wanted changes).or (catalog.label? wanted) :=
  view_foldl (fun catalog => catalog.label? wanted)
    (label?_applyTo wanted) catalog changes

/--
After some changes the table of a kind is open if one of them concerns it or if
it was before.
-/
theorem hasTable_applyAllTo
    (kind : TermKind)
    (catalog : Catalog)
    (changes : List CatalogChange) :
    (applyAllTo catalog changes).hasTable kind =
      (changes.any (concerns kind) || catalog.hasTable kind) := by
  unfold applyAllTo
  induction changes generalizing catalog with
  | nil => rfl
  | cons change rest inductionHypothesis =>
      rw [List.foldl_cons, inductionHypothesis, hasTable_applyTo, List.any_cons]
      cases change.concerns kind <;> simp

theorem isEmpty_labels_applyTo (catalog : Catalog) (change : CatalogChange) :
    (change.applyTo catalog).labels.isEmpty = (!change.isLabel && catalog.labels.isEmpty) := by
  cases change with
  | opened kind => rfl
  | filed kind name lexeme => rfl
  | labelled id body =>
      rw [applyTo, Catalog.putLabel]
      cases catalog.labels with
      | nil => rfl
      | cons entry rest =>
          rw [Table.insert]
          split <;> rfl

/-- A catalog stays without labels exactly as long as no change gives one its body. -/
theorem isEmpty_labels_applyAllTo (catalog : Catalog) (changes : List CatalogChange) :
    (applyAllTo catalog changes).labels.isEmpty =
      (!changes.any isLabel && catalog.labels.isEmpty) := by
  unfold applyAllTo
  induction changes generalizing catalog with
  | nil => rfl
  | cons change rest inductionHypothesis =>
      rw [List.foldl_cons, inductionHypothesis, isEmpty_labels_applyTo, List.any_cons]
      cases change.isLabel <;> simp

end CatalogChange

end Concord
