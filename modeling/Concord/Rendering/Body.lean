import Concord.Rendering.Context

/-!
# Rendering bodies

The text of a body is the texts of its segments in order.  Phrases render the
variant that their key selects, or else their fallback; a nested body is
resolved against its own segments.
-/

namespace Concord

namespace Context

/-- Whether a list of variants has a key. -/
def hasVariant (key : String) (variants : List (String × Body)) : Bool :=
  variants.any fun variant => variant.1 = key

mutual

/-- Render a term that sees the given segments around it. -/
def termText (context : Context) : Term -> Neighbours -> Rendering String
  | .noun ref, _ => .lift (context.nounText ref)
  | .modifier ref, neighbours => context.modifierText neighbours ref
  | .gender target fallback variants, neighbours =>
      (Rendering.lift (context.genderKey neighbours target)).bind fun key =>
        match key with
        | none => bodyText context fallback
        | some key => (variantText? context key variants).getD (bodyText context fallback)
  | .plural argument fallback variants, _ =>
      let hasZero := hasVariant PluralCategory.zero.name variants
      (Rendering.lift (context.pluralKey argument hasZero)).bind fun key =>
        (variantText? context key variants).getD (bodyText context fallback)
  | .counter target, neighbours => .lift (context.counterText neighbours target)
  | .bare _, _ => .pure ""

/-- Render the variant under a key, if there is one. -/
def variantText? (context : Context) (key : String) :
    List (String × Body) -> Option (Rendering String)
  | [] => none
  | (name, body) :: rest =>
      if name = key then some (bodyText context body) else variantText? context key rest

/-- Render a body. -/
def bodyText (context : Context) : Body -> Rendering String
  | .text content => .pure content
  | .tag kind => .pure kind.letter
  | .segments content => segmentsText context content (Segment.among content)

/-- Render some segments of a body in order. -/
def segmentsText (context : Context) : List Segment -> Neighbours -> Rendering String
  | [], _ => .pure ""
  | segment :: rest, neighbours =>
      (segmentText context segment neighbours).append (segmentsText context rest neighbours)

/-- Render one segment of a body. -/
def segmentText (context : Context) : Segment -> Neighbours -> Rendering String
  | .gap, _ => .pure ""
  | .text content, _ => .pure content
  | .tag kind, _ => .pure kind.letter
  | .term content, neighbours => termText context content neighbours

end

@[simp] theorem bodyText_text (context : Context) (content : String) :
    context.bodyText (.text content) = .pure content := rfl

@[simp] theorem bodyText_tag (context : Context) (kind : TermKind) :
    context.bodyText (.tag kind) = .pure kind.letter := rfl

@[simp] theorem bodyText_segments (context : Context) (content : List Segment) :
    context.bodyText (.segments content) =
      context.segmentsText content (Segment.among content) := rfl

@[simp] theorem segmentsText_nil (context : Context) (neighbours : Neighbours) :
    context.segmentsText [] neighbours = .pure "" := rfl

@[simp] theorem segmentsText_cons
    (context : Context)
    (segment : Segment)
    (rest : List Segment)
    (neighbours : Neighbours) :
    context.segmentsText (segment :: rest) neighbours =
      (context.segmentText segment neighbours).append (context.segmentsText rest neighbours) := rfl

theorem segmentsText_append
    (context : Context)
    (left right : List Segment)
    (neighbours : Neighbours) :
    context.segmentsText (left ++ right) neighbours =
      (context.segmentsText left neighbours).append (context.segmentsText right neighbours) := by
  induction left with
  | nil => simp
  | cons segment rest inductionHypothesis =>
      simp [inductionHypothesis, Rendering.append_assoc]

end Context

/-- A value taken as a body without being read: what is no text and no term stands for no text. -/
def Segment.ofUnread : Value -> Segment
  | .null => .gap
  | .text content => .text content
  | .tag kind => .tag kind
  | .term content => .term content
  | _ => .text ""

/-- The segments that a collection holds by their positions, without being read. -/
def Segment.amongUnread (values : Value) : Neighbours := fun index =>
  (values.entryAt (some index)).map fun value => (Segment.ofUnread value).present?

/-- A value taken as a body without being read. -/
def Body.ofUnread : Value -> Except NumberError Body
  | .null => .ok (.text "")
  | .text content => .ok (.text content)
  | .tag kind => .ok (.tag kind)
  | .list items => .ok (.segments (items.map Segment.ofUnread))
  | .tuple items => .ok (.segments (items.map Segment.ofUnread))
  | value => value.written.map .text

end Concord
