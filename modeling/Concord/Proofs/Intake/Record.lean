import Concord.Proofs.Intake.Reading
import Concord.Proofs.Term.Nesting

/-!
# Terms as records

A term is written as the record of its fields, with the bodies inside written
the same way.  Each field may go by its short or its long name, and a record may
hold whatever else under other keys.
-/

namespace Concord

/-- A text that may be absent, as a value. -/
def Value.ofText? : Option String -> Value
  | none => .null
  | some content => .text content

/-- A whole number that may be absent, as a value. -/
def Value.ofInteger? : Option Int -> Value
  | none => .null
  | some number => .integer number

mutual

/-- The record of a term, which holds its fields under their short names. -/
def Term.toRecord : Term -> Value
  | .noun ref =>
      .map [
        (.text "t", .text TermKind.noun.letter),
        (.text "l", .ofText? ref.name),
        (.text "f", .ofText? ref.form),
        (.text "c", .truth ref.capitalized),
        (.text "i", .ofInteger? ref.argument)]
  | .modifier ref =>
      .map [
        (.text "t", .text ref.kind.toTermKind.letter),
        (.text "l", .ofText? ref.name),
        (.text "f", .ofText? ref.form),
        (.text "c", .truth ref.capitalized),
        (.text "an", .ofInteger? ref.target),
        (.text "nt", .ofInteger? ref.follower)]
  | .gender target fallback variants =>
      .map [
        (.text "t", .text TermKind.gender.letter),
        (.text "an", .ofInteger? target),
        (.text "def", fallback.toValue),
        (.text "v", .map (variantEntries variants))]
  | .plural argument fallback variants =>
      .map [
        (.text "t", .text TermKind.plural.letter),
        (.text "i", .ofInteger? argument),
        (.text "def", fallback.toValue),
        (.text "v", .map (variantEntries variants))]
  | .counter target =>
      .map [
        (.text "t", .text TermKind.counter.letter),
        (.text "an", .ofInteger? target)]
  | .bare kind => .term (.bare kind)

/-- A segment as a value. -/
def Segment.toValue : Segment -> Value
  | .gap => .null
  | .text content => .text content
  | .tag kind => .tag kind
  | .term content => content.toRecord

/-- The segments of a body as values. -/
def segmentValues : List Segment -> List Value
  | [] => []
  | segment :: rest => segment.toValue :: segmentValues rest

/-- A body as a value. -/
def Body.toValue : Body -> Value
  | .text content => .text content
  | .tag kind => .tag kind
  | .segments content => .list (segmentValues content)

/-- The variants of a phrase as entries of a mapping. -/
def variantEntries : List (String × Body) -> List (Value × Value)
  | [] => []
  | (key, body) :: rest => (.text key, body.toValue) :: variantEntries rest

end

mutual

/--
A record holds the fields of a term, each under its short or its long name, and
the bodies inside are written the same way.  Nothing is said about other keys.
-/
inductive Term.WrittenAs : Term -> Value -> Prop
  | noun {ref : NounTerm} {entries : List (Value × Value)}
      (kind : Value.find? entries (.text "t") = some (.text TermKind.noun.letter))
      (name : fieldValue? entries "l" "name" = some (.ofText? ref.name))
      (form : fieldValue? entries "f" "form" = some (.ofText? ref.form))
      (capitalized : fieldValue? entries "c" "capitalize" = some (.truth ref.capitalized))
      (argument : fieldValue? entries "i" "index" = some (.ofInteger? ref.argument)) :
      Term.WrittenAs (.noun ref) (.map entries)
  | modifier {ref : ModifierTerm} {entries : List (Value × Value)}
      (kind : Value.find? entries (.text "t") = some (.text ref.kind.toTermKind.letter))
      (name : fieldValue? entries "l" "name" = some (.ofText? ref.name))
      (form : fieldValue? entries "f" "form" = some (.ofText? ref.form))
      (capitalized : fieldValue? entries "c" "capitalize" = some (.truth ref.capitalized))
      (target : fieldValue? entries "an" "associated_noun" = some (.ofInteger? ref.target))
      (follower : fieldValue? entries "nt" "next_term" = some (.ofInteger? ref.follower)) :
      Term.WrittenAs (.modifier ref) (.map entries)
  | gender {target : Option Int} {fallback : Body} {variants : List (String × Body)}
      {entries table : List (Value × Value)} {fallbackValue : Value}
      (kind : Value.find? entries (.text "t") = some (.text TermKind.gender.letter))
      (targetHeld : fieldValue? entries "an" "associated_noun" = some (.ofInteger? target))
      (fallbackHeld : fieldValue? entries "def" "default" = some fallbackValue)
      (variantsHeld : fieldValue? entries "v" "forms" = some (.map table))
      (fallbackWritten : Body.WrittenAs fallback fallbackValue)
      (variantsWritten : List.Forall₂ VariantWrittenAs variants table) :
      Term.WrittenAs (.gender target fallback variants) (.map entries)
  | plural {argument : Option Int} {fallback : Body} {variants : List (String × Body)}
      {entries table : List (Value × Value)} {fallbackValue : Value}
      (kind : Value.find? entries (.text "t") = some (.text TermKind.plural.letter))
      (argumentHeld : fieldValue? entries "i" "index" = some (.ofInteger? argument))
      (fallbackHeld : fieldValue? entries "def" "default" = some fallbackValue)
      (variantsHeld : fieldValue? entries "v" "forms" = some (.map table))
      (fallbackWritten : Body.WrittenAs fallback fallbackValue)
      (variantsWritten : List.Forall₂ VariantWrittenAs variants table) :
      Term.WrittenAs (.plural argument fallback variants) (.map entries)
  | counter {target : Option Int} {entries : List (Value × Value)}
      (kind : Value.find? entries (.text "t") = some (.text TermKind.counter.letter))
      (targetHeld : fieldValue? entries "an" "associated_noun" = some (.ofInteger? target)) :
      Term.WrittenAs (.counter target) (.map entries)
  | bare (kind : TermKind) : Term.WrittenAs (.bare kind) (.term (.bare kind))

/-- A value stands for a segment. -/
inductive Segment.WrittenAs : Segment -> Value -> Prop
  | gap : Segment.WrittenAs .gap .null
  | text (content : String) : Segment.WrittenAs (.text content) (.text content)
  | tag (kind : TermKind) : Segment.WrittenAs (.tag kind) (.tag kind)
  | term {term : Term} {record : Value} (written : Term.WrittenAs term record) :
      Segment.WrittenAs (.term term) record

/-- A value stands for a body. -/
inductive Body.WrittenAs : Body -> Value -> Prop
  | text (content : String) : Body.WrittenAs (.text content) (.text content)
  | tag (kind : TermKind) : Body.WrittenAs (.tag kind) (.tag kind)
  | segments {content : List Segment} {items : List Value}
      (each : List.Forall₂ Segment.WrittenAs content items) :
      Body.WrittenAs (.segments content) (.list items)

/-- An entry of a mapping stands for a variant of a phrase. -/
inductive VariantWrittenAs : String × Body -> Value × Value -> Prop
  | pair {key : String} {body : Body} {value : Value} (written : Body.WrittenAs body value) :
      VariantWrittenAs (key, body) (.text key, value)

end

theorem segmentValues_eq (content : List Segment) :
    segmentValues content = content.map Segment.toValue := by
  induction content with
  | nil => rfl
  | cons segment rest inductionHypothesis =>
      rw [segmentValues, inductionHypothesis, List.map_cons]

theorem forall₂_variantEntries
    {variants : List (String × Body)}
    (written : ∀ phrase ∈ variants.map Prod.snd, phrase.WrittenAs phrase.toValue) :
    List.Forall₂ VariantWrittenAs variants (variantEntries variants) := by
  induction variants with
  | nil => exact .nil
  | cons variant rest inductionHypothesis =>
      rw [List.map_cons, List.forall_mem_cons] at written
      exact .cons (.pair written.1) (inductionHypothesis written.2)

/-- If its phrases are written as their values, a term is written as its record. -/
theorem Term.writtenAs_toRecord_of_phrases
    {term : Term}
    (written : ∀ phrase ∈ term.phrases, phrase.WrittenAs phrase.toValue) :
    term.WrittenAs term.toRecord := by
  cases term with
  | noun ref => exact .noun rfl rfl rfl rfl rfl
  | modifier ref => exact .modifier rfl rfl rfl rfl rfl rfl
  | counter target => exact .counter rfl rfl
  | bare kind => exact .bare kind
  | gender target fallback variants =>
      obtain ⟨fallbackWritten, variantsWritten⟩ := List.forall_mem_cons.mp written
      exact .gender rfl rfl rfl rfl fallbackWritten (forall₂_variantEntries variantsWritten)
  | plural argument fallback variants =>
      obtain ⟨fallbackWritten, variantsWritten⟩ := List.forall_mem_cons.mp written
      exact .plural rfl rfl rfl rfl fallbackWritten (forall₂_variantEntries variantsWritten)

/-- Every body is written as its value. -/
theorem Body.writtenAs_toValue (body : Body) : body.WrittenAs body.toValue := by
  induction body with
  | text content => exact .text content
  | tag kind => exact .tag kind
  | segments content inductionHypothesis =>
      refine .segments ?_
      rw [segmentValues_eq, List.forall₂_map_right_iff, List.forall₂_same]
      intro segment present
      cases segment with
      | gap => exact .gap
      | text content => exact .text content
      | tag kind => exact .tag kind
      | term term =>
          exact .term (Term.writtenAs_toRecord_of_phrases (inductionHypothesis term present))

/-- A term is written as the record with its fields under their short names. -/
theorem Term.writtenAs_toRecord (term : Term) : term.WrittenAs term.toRecord :=
  writtenAs_toRecord_of_phrases fun phrase _ => phrase.writtenAs_toValue

end Concord
