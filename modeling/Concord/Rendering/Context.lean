import Concord.Agreement.Grammar
import Concord.Catalog.Basic
import Concord.Rendering.Request

/-!
# What a term sees

A term is resolved against a catalog, the grammar of a locale, and the nouns
and arguments of the caller.  Of its own body it sees only the segments that it
points at.  What cannot be found resolves to the empty text; only a position
that is too long to be written as a key of the caller's nouns or arguments, or
of an unread body, is an error.
-/

namespace Concord

/-- Everything outside a body that its text depends on. -/
structure Context where
  /-- The dictionary in which words are looked up. -/
  catalog : Catalog
  /-- The grammar by which modifiers agree and numbers are sorted. -/
  grammar : Grammar
  /-- The nouns that the caller names. -/
  nouns : Value
  /-- The arguments that the caller gives. -/
  arguments : Value

namespace Context

/-- The noun that a value of the caller names. -/
def givenName? : Value -> Option String
  | .text name => if name = "" then none else some name
  | .tag kind => some kind.display
  | _ => none

/-- The name that a term finds a noun by: the caller's at its argument position, else its own. -/
def nounName? (context : Context) (term : Term) : Except NumberError (Option String) :=
  match term.argument?, context.nouns with
  | none, _ => .ok (term.name?.filter (· ≠ ""))
  | some _, .null => .ok (term.name?.filter (· ≠ ""))
  | some index, nouns => (nouns.entryAt (some index)).map givenName?

theorem nounName?_of_no_argument
    (context : Context)
    {term : Term}
    (asksNothing : term.argument? = none) :
    context.nounName? term = .ok (term.name?.filter (· ≠ "")) := by
  rw [nounName?, asksNothing]

/-- Without any nouns of the caller a term finds a noun by its own name. -/
theorem nounName?_of_null
    {context : Context}
    (absent : context.nouns = .null)
    (term : Term) :
    context.nounName? term = .ok (term.name?.filter (· ≠ "")) := by
  rw [nounName?, absent]
  cases term.argument? <;> rfl

/-- A term that asks the caller for a noun finds it by the name that the caller gives. -/
theorem nounName?_of_given
    {context : Context}
    {term : Term}
    {index : Int}
    (asks : term.argument? = some index)
    (given : context.nouns ≠ .null) :
    context.nounName? term = (context.nouns.entryAt (some index)).map givenName? := by
  unfold nounName?
  rw [asks]
  split
  · contradiction
  · contradiction
  · simp_all

/-- The noun filed under the name that a term finds a noun by. -/
def nounOfTerm (context : Context) (term : Term) : Except NumberError (Option Lexeme) :=
  (context.nounName? term).map fun name => name.bind (context.catalog.lexeme? .noun)

/-- The noun that a segment resolves to. -/
def nounOf (context : Context) : Segment -> Except NumberError (Option Lexeme)
  | .term term => context.nounOfTerm term
  | _ => .ok none

/-- The lexeme that a modifier refers to. -/
def modifierOf (context : Context) (ref : ModifierTerm) : Option Lexeme :=
  ref.name.bind (context.catalog.lexeme? ref.kind.toTermKind)

/-- The lexeme that a segment resolves to as the word after a modifier. -/
def wordOf (context : Context) : Segment -> Except NumberError (Option Lexeme)
  | .term (.noun ref) => context.nounOfTerm (.noun ref)
  | .term (.modifier ref) => .ok (context.modifierOf ref)
  | _ => .ok none

/-- The noun that the segment at a position resolves to. -/
def nounAt (context : Context) (neighbours : Neighbours) (position : Option Int) :
    Except NumberError (Option Lexeme) := do
  match ← Segment.pointedAt neighbours position with
  | none => return none
  | some segment => context.nounOf segment

/-- The text of a noun reference whose noun has been looked up. -/
def nounWord (context : Context) (ref : NounTerm) (noun : Option Lexeme) : String :=
  match noun.bind fun noun => noun.form? ref.form with
  | none => ""
  | some word => if ref.capitalized then word else context.grammar.insideNoun word

/-- The text of a noun reference. -/
def nounText (context : Context) (ref : NounTerm) : Except NumberError String :=
  (context.nounOfTerm (.noun ref)).map (context.nounWord ref)

/-- The form that a segment asks for, if it is a reference with one. -/
def formOf : Segment -> Option String
  | .term term => term.form?
  | _ => none

/-- The word after a modifier, which is its noun unless another segment stands there. -/
def followerOf (context : Context) (neighbours : Neighbours) (ref : ModifierTerm)
    (noun : Option Lexeme) : Except NumberError (Option Lexeme) :=
  if ref.follower = ref.target then
    .ok noun
  else do
    match ← Segment.pointedAt neighbours ref.follower with
    | some follower => context.wordOf follower
    | none => return noun

/-- The request that a modifier makes for a noun segment. -/
def requestFor (context : Context) (neighbours : Neighbours) (ref : ModifierTerm)
    (target : Segment) : Except NumberError AgreementRequest := do
  let noun ← context.nounOf target
  let next ← context.followerOf neighbours ref noun
  return {
    kind := ref.kind
    form := ref.form
    nounForm := formOf target
    noun := noun
    next := next
    answer := context.grammar.family.agreeingForm ref.kind ref.form noun next }

/-- The word of a modifier in the form of an answer. -/
def modifierWord (context : Context) (ref : ModifierTerm) (answer : Option String) : String :=
  match (context.modifierOf ref).bind fun lexeme => lexeme.form? answer with
  | none => ""
  | some word => if ref.capitalized then word else context.grammar.insideModifier word

/-- The text of a modifier; without a noun segment it asks for nothing and has no text. -/
def modifierText (context : Context) (neighbours : Neighbours) (ref : ModifierTerm) :
    Rendering String :=
  (Rendering.lift (Segment.pointedAt neighbours ref.target)).bind fun target =>
    match target with
    | none => .pure ""
    | some target =>
        (Rendering.lift (context.requestFor neighbours ref target)).bind fun request =>
          .ask request (context.modifierWord ref request.answer)

/-- The counter word for a noun. -/
def counterWord (context : Context) (noun : Option Lexeme) : String :=
  match noun.bind Lexeme.counter? with
  | none => context.grammar.counterWord
  | some counter => if counter = "" then context.grammar.counterWord else counter

/-- The counter word for the noun at a position. -/
def counterText (context : Context) (neighbours : Neighbours) (target : Option Int) :
    Except NumberError String :=
  (context.nounAt neighbours target).map context.counterWord

/-- The variant that the noun at a position asks for by its gender. -/
def genderKey (context : Context) (neighbours : Neighbours) (target : Option Int) :
    Except NumberError (Option String) :=
  (context.nounAt neighbours target).map fun noun => noun.bind Lexeme.gender?

/-- The variant that an argument asks for; a numeric zero asks for its own if there is one. -/
def pluralKey (context : Context) (argument : Option Int) (hasZero : Bool) :
    Except NumberError String := do
  let value ← context.arguments.entryAt argument
  let isZero ← value.isNumericZero
  if isZero && hasZero then
    return PluralCategory.zero.name
  else
    return (← context.grammar.categoryOf value).name

end Context
end Concord
