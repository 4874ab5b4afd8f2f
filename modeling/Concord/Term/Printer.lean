import Concord.Number.Error
import Concord.Term.Basic
import Concord.Text.Quoted

/-!
# Written terms

A term is written as the name of its class with its fields in order; shown by
itself it is written as its fields alone.  A term with a position that is too
long to be written cannot be written at all, nor can anything that holds it.
-/

namespace Concord

/-- A truth value as it is written inside other values. -/
def truthLiteral (value : Bool) : String :=
  if value then "True" else "False"

/-- A text that may be absent. -/
def textLiteral? : Option String -> String
  | none => "None"
  | some text => Text.quoted text

/-- A whole number that may be absent. -/
def integerLiteral? : Option Int -> String
  | none => "None"
  | some value => Int.repr value

/-- Texts with commas between them. -/
def commaSeparated (texts : List String) : String :=
  String.intercalate ", " texts

namespace Term

/-- The class name that a term is written with. -/
def className : Term -> String
  | .noun _ => "NounRef"
  | .modifier _ => "ModifierRef"
  | .gender .. => "GenderRef"
  | .plural .. => "PluralRef"
  | .counter _ => "CounterRef"
  | .bare _ => "TermReference"

end Term

mutual

/-- The fields of a term, each with its name. -/
def Term.fieldTexts : Term -> List String
  | .noun ref =>
      ["term_type=" ++ TermKind.noun.literal,
        "name=" ++ textLiteral? ref.name,
        "form=" ++ textLiteral? ref.form,
        "capitalize=" ++ truthLiteral ref.capitalized,
        "index=" ++ integerLiteral? ref.argument]
  | .modifier ref =>
      ["term_type=" ++ ref.kind.toTermKind.literal,
        "name=" ++ textLiteral? ref.name,
        "form=" ++ textLiteral? ref.form,
        "capitalize=" ++ truthLiteral ref.capitalized,
        "associated_noun=" ++ integerLiteral? ref.target,
        "next_term=" ++ integerLiteral? ref.follower]
  | .gender target fallback variants =>
      ["term_type=" ++ TermKind.gender.literal,
        "associated_noun=" ++ integerLiteral? target,
        "default=" ++ fallback.literal,
        "forms=\x7b" ++ commaSeparated (variantLiterals variants) ++ "\x7d"]
  | .plural argument fallback variants =>
      ["term_type=" ++ TermKind.plural.literal,
        "index=" ++ integerLiteral? argument,
        "default=" ++ fallback.literal,
        "forms=\x7b" ++ commaSeparated (variantLiterals variants) ++ "\x7d"]
  | .counter target =>
      ["term_type=" ++ TermKind.counter.literal,
        "associated_noun=" ++ integerLiteral? target]
  | .bare kind => ["term_type=" ++ kind.literal]

/-- A segment inside a list. -/
def Segment.literal : Segment -> String
  | .gap => "None"
  | .text content => Text.quoted content
  | .tag kind => kind.literal
  | .term content =>
      content.className ++ "(" ++ commaSeparated content.fieldTexts ++ ")"

/-- The segments of a list. -/
def segmentLiterals : List Segment -> List String
  | [] => []
  | segment :: rest => segment.literal :: segmentLiterals rest

/-- A body inside another value. -/
def Body.literal : Body -> String
  | .text content => Text.quoted content
  | .tag kind => kind.literal
  | .segments content => "[" ++ commaSeparated (segmentLiterals content) ++ "]"

/-- The variants of a phrase, each with its key. -/
def variantLiterals : List (String × Body) -> List String
  | [] => []
  | (key, body) :: rest => (Text.quoted key ++ ": " ++ body.literal) :: variantLiterals rest

end

/-- Whether a position that may be absent is short enough to be written. -/
def isWritable? : Option Int -> Bool
  | none => true
  | some position => isWritable position

mutual

/-- Whether all positions in a term are short enough to be written. -/
def Term.isWritable : Term -> Bool
  | .noun ref => isWritable? ref.argument
  | .modifier ref => isWritable? ref.target && isWritable? ref.follower
  | .gender target fallback variants =>
      isWritable? target && fallback.isWritable && areVariantsWritable variants
  | .plural argument fallback variants =>
      isWritable? argument && fallback.isWritable && areVariantsWritable variants
  | .counter target => isWritable? target
  | .bare _ => true

/-- Whether all positions in a segment are short enough to be written. -/
def Segment.isWritable : Segment -> Bool
  | .term content => content.isWritable
  | _ => true

/-- Whether all positions in the segments of a list are short enough to be written. -/
def areSegmentsWritable : List Segment -> Bool
  | [] => true
  | segment :: rest => segment.isWritable && areSegmentsWritable rest

/-- Whether all positions in a body are short enough to be written. -/
def Body.isWritable : Body -> Bool
  | .segments content => areSegmentsWritable content
  | _ => true

/-- Whether all positions in the variants of a phrase are short enough to be written. -/
def areVariantsWritable : List (String × Body) -> Bool
  | [] => true
  | (_, body) :: rest => body.isWritable && areVariantsWritable rest

end

namespace Term

/-- A term inside another value. -/
def literal (term : Term) : String :=
  term.className ++ "(" ++ commaSeparated term.fieldTexts ++ ")"

/-- A term shown by itself. -/
def display (term : Term) : String :=
  String.intercalate " " term.fieldTexts

end Term
end Concord
