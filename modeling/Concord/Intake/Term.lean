import Concord.Intake.Error
import Concord.Intake.Integer

/-!
# Terms from values

A record with a known kind is read as a term of that kind.  The bodies inside
gender and plural terms are read the same way, and a refused term inside one
refuses the whole; it outweighs bad fields of the outer record.  A body that
has to be written and cannot be is a bad field of the record that holds it.
-/

namespace Concord

/-- The kind that a value names by its letter. -/
def TermKind.named? : Value -> Option TermKind
  | .tag kind => some kind
  | .text letter => ofLetter? letter
  | _ => none

/-- Read the kind of a term; a value that names none is refused if it can be written. -/
def TermKind.ofValue (raw : Value) : Reading TermKind :=
  match named? raw with
  | some kind => .ok kind
  | none =>
      if raw.isWritable then .error (.refused (.unknownKind raw)) else .error (.number .unwritable)

/-- Read the fields of a noun reference. -/
def NounTerm.ofEntries (entries : List (Value × Value)) : Checked NounTerm :=
  let name := readField entries "l" "name" none readText?
  let form := readField entries "f" "form" none readText?
  let capitalized := readField entries "c" "capitalize" false readTruth
  let argument := readField entries "i" "index" none readInteger?
  match name, form, capitalized, argument with
  | .ok name, .ok form, .ok capitalized, .ok argument =>
      .ok ⟨name, form, capitalized, argument⟩
  | _, _, _, _ =>
      .error (name.failures ++ form.failures ++ capitalized.failures ++ argument.failures)

/-- Read the fields of a reference to an adjective or article. -/
def ModifierTerm.ofEntries (kind : ModifierKind) (entries : List (Value × Value)) :
    Checked ModifierTerm :=
  let name := readField entries "l" "name" none readText?
  let form := readField entries "f" "form" none readText?
  let capitalized := readField entries "c" "capitalize" false readTruth
  let target := readField entries "an" "associated_noun" none readInteger?
  let follower := readField entries "nt" "next_term" none readInteger?
  match name, form, capitalized, target, follower with
  | .ok name, .ok form, .ok capitalized, .ok target, .ok follower =>
      .ok ⟨kind, name, form, capitalized, target, follower⟩
  | _, _, _, _, _ =>
      .error (name.failures ++ form.failures ++ capitalized.failures ++ target.failures ++
        follower.failures)

/-- Read the position of the noun that a term agrees with. -/
def readTarget (entries : List (Value × Value)) : Checked (Option Int) :=
  readField entries "an" "associated_noun" none readInteger?

/-- Read the position of the argument that a phrase is chosen by. -/
def readArgument (entries : List (Value × Value)) : Checked (Option Int) :=
  readField entries "i" "index" none readInteger?

/-- The kind that a record names. -/
def recordKind (entries : List (Value × Value)) : Reading TermKind :=
  TermKind.ofValue ((Value.find? entries (.text "t")).getD .null)

/-- A checked record, or the refusal of the record that it was read from. -/
def Checked.orRefuse {α : Type} (kind : TermKind) (entries : List (Value × Value)) :
    Checked α -> Reading α
  | .ok result => .ok result
  | .error failures => .error (.refused (.malformed kind failures (.map entries)))

/-- What was read under the short name of a field, or else under its long name, or a default. -/
def preferred {α : Type} (short long : String) (underShort underLong : Option (Reading α))
    (default : α) : Reading (Checked α) :=
  match underShort, underLong with
  | some reading, _ => reading.asField short
  | none, some reading => reading.asField long
  | none, none => .ok (.ok default)

/-- What gender and plural terms are made of: a position, a fallback and variants. -/
abbrev Phrase := Option Int × Body × List (String × Body)

/-- Read a phrase from its parts; a refusal inside a body outweighs bad fields. -/
def readPhrase (kind : TermKind) (entries : List (Value × Value))
    (position : Checked (Option Int)) (fallback : Reading (Checked Body))
    (variants : Reading (Checked (List (String × Body)))) : Reading Phrase := do
  let fallback ← fallback
  let variants ← variants
  (position.both (fallback.both variants)).orRefuse kind entries

/-- The segments that are no terms. -/
def Segment.plain? : Value -> Option Segment
  | .null => some .gap
  | .text content => some (.text content)
  | .tag kind => some (.tag kind)
  | _ => none

mutual

/-- Read a term; one that has been read before stays as it is. -/
def Term.ofValue : Value -> Reading Term
  | .term term => .ok term
  | .map entries =>
      match recordKind entries with
      | .error fault => .error fault
      | .ok kind =>
          match kind with
          | .noun => ((NounTerm.ofEntries entries).orRefuse kind entries).map .noun
          | .adjective =>
              ((ModifierTerm.ofEntries .adjective entries).orRefuse kind entries).map
                .modifier
          | .article =>
              ((ModifierTerm.ofEntries .article entries).orRefuse kind entries).map
                .modifier
          | .counter => ((readTarget entries).orRefuse kind entries).map .counter
          | .gender =>
              (readPhrase kind entries (readTarget entries)
                (preferred "def" "default" (bodyUnder? "def" entries)
                  (bodyUnder? "default" entries) (.text ""))
                (preferred "v" "forms" (variantsUnder? "v" entries)
                  (variantsUnder? "forms" entries) [])).map
                fun (target, fallback, variants) => .gender target fallback variants
          | .plural =>
              (readPhrase kind entries (readArgument entries)
                (preferred "def" "default" (bodyUnder? "def" entries)
                  (bodyUnder? "default" entries) (.text ""))
                (preferred "v" "forms" (variantsUnder? "v" entries)
                  (variantsUnder? "forms" entries) [])).map
                fun (argument, fallback, variants) => .plural argument fallback variants
  | raw => .error (.refused (.notARecord raw))

/-- Read a body: nothing is the empty text; what is neither text nor list is shown as text. -/
def Body.ofValue : Value -> Reading Body
  | .null => .ok (.text "")
  | .text content => .ok (.text content)
  | .tag kind => .ok (.tag kind)
  | .list items => (segmentsOf items).map .segments
  | .tuple items => (segmentsOf items).map .segments
  | raw => (Reading.ofWritten raw).map .text

/-- Read the segments of a body in order. -/
def segmentsOf : List Value -> Reading (List Segment)
  | [] => .ok []
  | item :: rest => do
      let segment ←
        match Segment.plain? item with
        | some segment => .ok segment
        | none => (Term.ofValue item).map .term
      let segments ← segmentsOf rest
      return segment :: segments

/-- Read the body under a key, if there is one. -/
def bodyUnder? (key : String) : List (Value × Value) -> Option (Reading Body)
  | [] => none
  | (name, value) :: rest =>
      if Value.sameKey (.text key) name then some (Body.ofValue value) else bodyUnder? key rest

/-- Read the variants of a phrase under a key, if there is one. -/
def variantsUnder? (key : String) :
    List (Value × Value) -> Option (Reading (List (String × Body)))
  | [] => none
  | (name, value) :: rest =>
      if Value.sameKey (.text key) name then
        some (variantTable value)
      else
        variantsUnder? key rest

/-- Read a table of variants. -/
def variantTable : Value -> Reading (List (String × Body))
  | .null => .ok []
  | .map entries => (variantPairs entries).map Table.ofPairs
  | raw => .error (.refused (.variantsNotARecord raw))

/-- Read the variants of a table in order; a variant of nothing is left out. -/
def variantPairs : List (Value × Value) -> Reading (List (String × Body))
  | [] => .ok []
  | (_, .null) :: rest => variantPairs rest
  | (key, value) :: rest => do
      let name ← Reading.ofWritten key
      let body ← Body.ofValue value
      let pairs ← variantPairs rest
      return (name, body) :: pairs

end

end Concord
