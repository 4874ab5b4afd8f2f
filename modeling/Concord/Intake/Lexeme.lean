import Concord.Intake.Term

/-!
# Lexemes from values

A record is read as a lexeme of the table that it stands in; only nouns have a
gender and a counter word.  The forms must be texts under texts, and every one
that is not is reported.
-/

namespace Concord

/-- A key that is no text as the name of a step. -/
def keyName (key : Value) : String :=
  if key.isWritable then key.literal else "<unprintable " ++ key.typeName ++ " object>"

/-- A key on the way to a fault; a number that does not fit a machine word counts as a name. -/
def FieldStep.ofKey : Value -> FieldStep
  | .integer index => if fitsWord index then .number index else .name (keyName (.integer index))
  | .truth value => .number value.toNat
  | key =>
      match key.text? with
      | some text => .name text
      | none => .name (keyName key)

/-- The failures of reading a text at a place. -/
def textFailures (place : List FieldStep) (value : Value) : List FieldFailure :=
  match readText value with
  | .ok _ => []
  | .error fault => [⟨place, fault⟩]

/-- The failures of one form: of its key first, then of its value. -/
def formFailures (name : String) (key value : Value) : List FieldFailure :=
  textFailures [.name name, FieldStep.ofKey key, .name "[key]"] key ++
    textFailures [.name name, FieldStep.ofKey key] value

/-- The form that an entry gives, if both sides are texts. -/
def formPair? (entry : Value × Value) : Option (String × String) :=
  match readText entry.1, readText entry.2 with
  | .ok key, .ok form => some (key, form)
  | _, _ => none

/-- Read the forms of a lexeme from the field of a given name. -/
def readForms (name : String) (value : Value) : Checked (Table String String) :=
  match value with
  | .map entries =>
      match entries.flatMap fun entry => formFailures name entry.1 entry.2 with
      | [] => .ok (Table.ofPairs (entries.filterMap formPair?))
      | failures => .error failures
  | _ => .error [⟨[.name name], .notMapping⟩]

/-- Read the field of forms; without it there are none. -/
def formsOf (entries : List (Value × Value)) : Checked (Table String String) :=
  match field? entries "v" "forms" with
  | none => .ok []
  | some (name, value) => readForms name value

/-- Read what only the words of a table have. -/
def wordClassOf (kind : TermKind) (entries : List (Value × Value)) : Checked LexemeClass :=
  match kind with
  | .noun =>
      let gender := readField entries "g" "gender" none readText?
      let counter := readField entries "c" "counter" none readText?
      match gender, counter with
      | .ok gender, .ok counter => .ok (.noun gender counter)
      | _, _ => .error (gender.failures ++ counter.failures)
  | .adjective => .ok .modifier
  | .article => .ok .modifier
  | _ => .ok .other

/-- Read the fields of a lexeme. -/
def Lexeme.ofEntries (kind : TermKind) (entries : List (Value × Value)) : Checked Lexeme :=
  let name := readField entries "l" "name" none readText?
  let forms := formsOf entries
  let onset := readField entries "s" "starts_with" none readText?
  let wordClass := wordClassOf kind entries
  match name, forms, onset, wordClass with
  | .ok name, .ok forms, .ok onset, .ok wordClass => .ok ⟨name, forms, onset, wordClass⟩
  | _, _, _, _ =>
      .error (name.failures ++ forms.failures ++ onset.failures ++ wordClass.failures)

/-- Read a lexeme for a table; one that has been read before stays as it is. -/
def Lexeme.ofValue (kind : TermKind) (raw : Value) : Except Refusal Lexeme :=
  match raw with
  | .lexeme lexeme => .ok lexeme
  | .map entries =>
      match Lexeme.ofEntries kind entries with
      | .ok lexeme => .ok lexeme
      | .error failures => .error (.malformedLexeme kind failures raw)
  | _ => .error (.lexemeNotARecord kind raw)

end Concord
