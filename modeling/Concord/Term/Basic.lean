import Concord.Number.Error
import Concord.Table
import Concord.Term.Kind

/-!
# Terms and bodies

The body of a label is a plain text or a list of segments: literal texts,
references to terms, and gaps that keep the positions of the others.  A kind
may stand for the text of its letter.  Terms point at other segments of the
same body by position.  Gender and plural terms choose between bodies nested
in them.
-/

namespace Concord

/-- A noun, named in the label or, with an argument position, by the caller. -/
structure NounTerm where
  /-- The name in the label. -/
  name : Option String
  /-- The key of the inflected form. -/
  form : Option String
  /-- Whether capitals are kept whatever the grammar says. -/
  capitalized : Bool
  /-- The position of the name among the nouns of the caller. -/
  argument : Option Int
  deriving DecidableEq

/-- Whether the caller's noun arguments name the noun. -/
def NounTerm.isDynamic (ref : NounTerm) : Bool :=
  ref.argument.isSome

/-- An adjective or article, with the positions of its noun and of the word after it. -/
structure ModifierTerm where
  /-- Whether it is an adjective or an article. -/
  kind : ModifierKind
  /-- The name in the label. -/
  name : Option String
  /-- The form key from which the agreeing one is made. -/
  form : Option String
  /-- Whether capitals are kept whatever the grammar says. -/
  capitalized : Bool
  /-- The position of its noun in the body. -/
  target : Option Int
  /-- The position in the body of the word after it. -/
  follower : Option Int
  deriving DecidableEq

mutual

/-- A reference inside a body. -/
inductive Term
  | noun (ref : NounTerm)
  | modifier (ref : ModifierTerm)
  | gender (target : Option Int) (fallback : Body) (variants : List (String × Body))
  | plural (argument : Option Int) (fallback : Body) (variants : List (String × Body))
  | counter (target : Option Int)
  | bare (kind : TermKind)

/-- One position of a body. -/
inductive Segment
  | gap
  | text (content : String)
  | tag (kind : TermKind)
  | term (content : Term)

/-- What a label or a phrase variant consists of. -/
inductive Body
  | text (content : String)
  | tag (kind : TermKind)
  | segments (content : List Segment)

end

namespace Term

/-- The kind that a term is filed under. -/
def kind : Term -> TermKind
  | .noun _ => .noun
  | .modifier ref => ref.kind.toTermKind
  | .gender .. => .gender
  | .plural .. => .plural
  | .counter _ => .counter
  | .bare kind => kind

/-- The form that the label asks for, of terms that have one. -/
def form? : Term -> Option String
  | .noun ref => ref.form
  | .modifier ref => ref.form
  | _ => none

/-- The name in the label, of terms that have one. -/
def name? : Term -> Option String
  | .noun ref => ref.name
  | .modifier ref => ref.name
  | _ => none

/-- The argument position of terms that read the caller's arguments. -/
def argument? : Term -> Option Int
  | .noun ref => ref.argument
  | .plural argument _ _ => argument
  | _ => none

/-- Whether two terms are the same and have no bodies nested in them. -/
def sameFlat : Term -> Term -> Bool
  | .noun left, .noun right => left = right
  | .modifier left, .modifier right => left = right
  | .counter left, .counter right => left = right
  | .bare left, .bare right => left = right
  | _, _ => false

end Term

/--
What a term sees of the segments around it: those that are no gaps, by their
positions.  Where positions are looked up by their digits, one can be too long.
-/
abbrev Neighbours := Int -> Except NumberError (Option Segment)

namespace Segment

/-- A segment, unless it is a gap. -/
def present? : Segment -> Option Segment
  | .gap => none
  | segment => some segment

/-- The segments of a list by their positions. -/
def among (segments : List Segment) : Neighbours := fun index =>
  .ok (if index < 0 then none else segments[index.toNat]?.bind present?)

/-- The segment that a term points at, if it points at one. -/
def pointedAt (neighbours : Neighbours) (position : Option Int) :
    Except NumberError (Option Segment) :=
  match position with
  | none => .ok none
  | some index => neighbours index

end Segment

namespace Body

/-- Whether a body holds nothing at all. -/
def isEmpty : Body -> Bool
  | .text content => content = ""
  | .tag _ => false
  | .segments content => content.isEmpty

end Body
end Concord
