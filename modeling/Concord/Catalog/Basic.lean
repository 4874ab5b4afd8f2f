import Concord.Intake.Lexeme
import Concord.Text.Fold

/-!
# Catalogs

A catalog holds the dictionary and the labels of one language.  The lexemes
are filed by kind in tables of their own; nouns and modifiers are found under
their names without regard to letter case.  Any value can stand for a name, as
the text that it is written as; one that cannot be written is an error of the
look-up that needs the text.
-/

namespace Concord

/-- The dictionary and the labels of one language. -/
structure Catalog where
  /-- The tables that have been opened, each with its lexemes under filing keys. -/
  tables : Table TermKind (Table String Lexeme)
  /-- The bodies of the labels, by name. -/
  labels : Table String Body

namespace Catalog

/-- A catalog without any table or label. -/
def empty : Catalog :=
  ⟨[], []⟩

/-- The key under which a name is filed in the table of a kind. -/
def filingKey (kind : TermKind) (name : String) : String :=
  if kind.ignoresCase then Text.caseFolded name else name

/-- The name that a value stands for; nothing stands for the empty name. -/
def nameOf : Value -> Except NumberError String
  | .null => .ok ""
  | value => value.written

/-- The kind that a value names, if it names one. -/
def kindOf (value : Value) : Except NumberError (Option TermKind) :=
  match TermKind.ofValue value with
  | .ok kind => .ok (some kind)
  | .error (.refused _) => .ok none
  | .error (.number error) => .error error

/-- Whether the table of a kind has been opened. -/
def hasTable (catalog : Catalog) (kind : TermKind) : Bool :=
  (catalog.tables.get? kind).isSome

/-- The table of a kind; one that has not been opened is empty. -/
def tableOf (catalog : Catalog) (kind : TermKind) : Table String Lexeme :=
  (catalog.tables.get? kind).getD []

/-- The lexeme filed under a name. -/
def lexeme? (catalog : Catalog) (kind : TermKind) (name : String) : Option Lexeme :=
  (catalog.tableOf kind).get? (filingKey kind name)

/-- The lexeme filed under a value; what has no table is not looked up. -/
def lexemeUnder (catalog : Catalog) (kind : TermKind) (key : Value) :
    Except NumberError (Option Lexeme) :=
  if catalog.hasTable kind then
    (nameOf key).map (catalog.lexeme? kind)
  else
    .ok none

/-- The lexeme filed under a value in the table of the kind that another value names. -/
def find (catalog : Catalog) (kind key : Value) : Except NumberError (Option Lexeme) :=
  match key with
  | .null => .ok none
  | key => do
      match ← kindOf kind with
      | none => return none
      | some kind => catalog.lexemeUnder kind key

/--
Whether the table of the kind that a value names has been opened; what names no
kind has no table.
-/
def hasTableNamed (catalog : Catalog) (kind : Value) : Except NumberError Bool :=
  (kindOf kind).map fun kind => kind.any catalog.hasTable

/-- The table of the kind that a value names; one that names none counts as an empty table. -/
def tableNamed (catalog : Catalog) (kind : Value) : Except NumberError (Table String Lexeme) :=
  (kindOf kind).map fun kind => kind.elim [] catalog.tableOf

/-- The body of a label. -/
def label? (catalog : Catalog) (id : String) : Option Body :=
  catalog.labels.get? id

/-- The body of the label that a value stands for; without any labels none is looked up. -/
def labelUnder (catalog : Catalog) (id : Value) : Except NumberError (Option Body) :=
  if catalog.labels.isEmpty then .ok none else id.written.map catalog.label?

/-- Whether there is a label that a value stands for. -/
def hasLabel (catalog : Catalog) (id : Value) : Except NumberError Bool :=
  id.written.map fun id => (catalog.label? id).isSome

/-- Whether there are any labels. -/
def hasLabels (catalog : Catalog) : Bool :=
  !catalog.labels.isEmpty

/-- The names of the labels, in the order in which they first came. -/
def labelIds (catalog : Catalog) : List String :=
  Table.keys catalog.labels

/-- What is found for a label that is not there, where the caller names nothing else. -/
def missingMark : Value := .text "MISSING"

/--
The body of the label that a value stands for, or else what the caller names for
one that is missing.
-/
def labelUnderOr (catalog : Catalog) (id : Value) (default? : Option Value) :
    Except NumberError (Body ⊕ Value) :=
  (catalog.labelUnder id).map fun body =>
    body.elim (.inr (default?.getD missingMark)) .inl

/-- Open the table of a kind, unless it has been opened before. -/
def openTable (catalog : Catalog) (kind : TermKind) : Catalog :=
  { catalog with tables := catalog.tables.insert kind (catalog.tableOf kind) }

/-- File a lexeme under a name. -/
def putLexeme (catalog : Catalog) (kind : TermKind) (name : String) (lexeme : Lexeme) : Catalog :=
  { catalog with
    tables :=
      catalog.tables.insert kind ((catalog.tableOf kind).insert (filingKey kind name) lexeme) }

/-- Give a label its body. -/
def putLabel (catalog : Catalog) (id : String) (body : Body) : Catalog :=
  { catalog with labels := catalog.labels.insert id body }

@[simp] theorem tableOf_openTable (catalog : Catalog) (kind other : TermKind) :
    (catalog.openTable kind).tableOf other = catalog.tableOf other := by
  by_cases same : kind = other
  · subst same
    simp [openTable, tableOf]
  · simp [openTable, tableOf, same]

/-- A table that has not been opened holds nothing. -/
theorem tableNamed_of_not_hasTableNamed
    {catalog : Catalog}
    {kind : Value}
    (unopened : catalog.hasTableNamed kind = .ok false) :
    catalog.tableNamed kind = .ok [] := by
  cases named : kindOf kind with
  | error fault => simp [hasTableNamed, named, Except.map] at unopened
  | ok named? =>
      cases named? with
      | none => simp [tableNamed, named, Except.map]
      | some kind =>
          have missing : catalog.tables.get? kind = none := by
            simpa [hasTableNamed, named, Except.map, hasTable] using unopened
          simp [tableNamed, named, Except.map, tableOf, missing]

theorem hasTable_openTable (catalog : Catalog) (kind other : TermKind) :
    (catalog.openTable kind).hasTable other =
      (decide (kind = other) || catalog.hasTable other) := by
  by_cases same : kind = other <;> simp [openTable, hasTable, same]

@[simp] theorem lexeme?_openTable (catalog : Catalog) (kind other : TermKind) (name : String) :
    (catalog.openTable kind).lexeme? other name = catalog.lexeme? other name := by
  simp [lexeme?]

theorem lexeme?_putLexeme
    (catalog : Catalog)
    (kind other : TermKind)
    (name wanted : String)
    (lexeme : Lexeme) :
    (catalog.putLexeme kind name lexeme).lexeme? other wanted =
      if kind = other ∧ filingKey other name = filingKey other wanted then
        some lexeme
      else
        catalog.lexeme? other wanted := by
  by_cases same : kind = other
  · subst same
    simp [putLexeme, lexeme?, tableOf]
  · simp [putLexeme, lexeme?, tableOf, same]

@[simp] theorem labelUnder_text (catalog : Catalog) (id : String) :
    catalog.labelUnder (.text id) = .ok (catalog.label? id) := by
  cases empty : catalog.labels <;> simp [labelUnder, label?, Except.map, empty]

/-- For a label that is not there the caller gets what it names for a missing one. -/
theorem labelUnderOr_of_not_hasLabel
    {catalog : Catalog}
    {id : Value}
    (missing : catalog.hasLabel id = .ok false)
    (default? : Option Value) :
    catalog.labelUnderOr id default? = .ok (.inr (default?.getD missingMark)) := by
  cases written : id.written with
  | error fault => simp [hasLabel, written, Except.map] at missing
  | ok name =>
      have unlabelled : catalog.label? name = none := by
        simpa [hasLabel, written, Except.map] using missing
      by_cases unfilled : catalog.labels.isEmpty
      · simp [labelUnderOr, labelUnder, unfilled, Except.map]
      · simp [labelUnderOr, labelUnder, unfilled, written, unlabelled, Except.map]

theorem label?_putLabel (catalog : Catalog) (id wanted : String) (body : Body) :
    (catalog.putLabel id body).label? wanted =
      if id = wanted then some body else catalog.label? wanted := by
  simp [putLabel, label?]

end Catalog
end Concord
