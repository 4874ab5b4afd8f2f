import Concord.Proofs.Rendering.Neighbourhood
import Concord.Rendering.Localizer

/-!
# Nouns of the caller

A noun that the caller names by an argument stands for the noun of that name in
the label.  Writing the names of the caller into a body therefore gives a body
that renders to the same text without any nouns of the caller, provided that no
plural phrase stands where a term expects its noun.
-/

namespace Concord

/-- The name that the caller's nouns give at a position, if there is a text that is not empty. -/
def Value.nounNameAt (nouns : Value) (index : Int) : Option String :=
  (nouns.entryAt (some index)).toOption.bind Context.givenName?

/-- Write the names of the caller into the nouns that ask for them. -/
def WordMap.staticNouns (nouns : Value) : WordMap where
  noun ref :=
    match ref.argument with
    | none => ref
    | some index => { ref with name := nouns.nounNameAt index, argument := none }
  modifier := id

/-- A body with the names of the caller in the place of noun arguments, at any depth. -/
def Body.withStaticNouns (nouns : Value) (body : Body) : Body :=
  body.mapWords (.staticNouns nouns)

/-- The caller's nouns can be asked for the position of every noun among some segments. -/
def Value.AnswersNouns (nouns : Value) (content : List Segment) : Prop :=
  ∀ ref index, Segment.term (.noun ref) ∈ content -> ref.argument = some index ->
    ∃ value, nouns.entryAt (some index) = .ok value

/--
The caller's nouns can be asked for the position of every noun at any depth of a
body, so that there is a name to write into it, or none.
-/
def Body.NamedBy (body : Body) (nouns : Value) : Prop :=
  ∀ content ref index, body.Holds content (.noun ref) -> ref.argument = some index ->
    ∃ value, nouns.entryAt (some index) = .ok value

/-- Whether a segment is a plural phrase. -/
def Segment.isPlural : Segment -> Bool
  | .term (.plural ..) => true
  | _ => false

/-- What stands at a position is no plural phrase. -/
def Segment.PointsAtNoPlural (content : List Segment) (position : Option Int) : Prop :=
  ∀ segment, pointedAt (among content) position = .ok (some segment) -> segment.isPlural = false

/-- No term at any depth points at a plural phrase as its noun. -/
def Body.TargetsNoPlural (body : Body) : Prop :=
  ∀ content term, body.Holds content term -> Segment.PointsAtNoPlural content term.target?

namespace Context

/-- The same context without any nouns of the caller. -/
def withoutNouns (context : Context) : Context :=
  { context with nouns := .null }

theorem filter_givenName? (value : Value) :
    (givenName? value).filter (· ≠ "") = givenName? value := by
  cases value with
  | text name => by_cases blank : name = "" <;> simp [givenName?, blank]
  | tag kind => cases kind <;> rfl
  | _ => rfl

theorem nounName?_of_argument
    {context : Context}
    {term : Term}
    {index : Int}
    (asks : term.argument? = some index)
    (given : context.nouns ≠ .null)
    (answered : ∃ value, context.nouns.entryAt (some index) = .ok value) :
    context.nounName? term = .ok (context.nouns.nounNameAt index) := by
  obtain ⟨value, looked⟩ := answered
  rw [nounName?_of_given asks given, Value.nounNameAt, looked]
  rfl

theorem filter_nounNameAt (nouns : Value) (index : Int) :
    (nouns.nounNameAt index).filter (· ≠ "") = nouns.nounNameAt index := by
  unfold Value.nounNameAt
  cases (nouns.entryAt (some index)).toOption with
  | none => rfl
  | some value => exact filter_givenName? value

/-- A noun reference keeps its form when it is given a name. -/
theorem formOf_mapWords (segment : Segment) (nouns : Value) :
    formOf (segment.mapWords (.staticNouns nouns)) = formOf segment := by
  cases segment with
  | gap | text content | tag kind => rfl
  | term term =>
      cases term with
      | noun ref =>
          simp only [Segment.mapWords, Term.mapWords, formOf, Term.form?, WordMap.staticNouns]
          split <;> rfl
      | modifier ref | plural argument fallback variants | gender target fallback variants
      | counter target | bare kind => rfl

/-- A noun reference keeps its form and its capitals when it is given a name. -/
theorem nounWord_staticNouns (context : Context) (ref : NounTerm) (noun : Option Lexeme) :
    context.withoutNouns.nounWord ((WordMap.staticNouns context.nouns).noun ref) noun =
      context.nounWord ref noun := by
  simp only [WordMap.staticNouns]
  split <;> rfl

/-! ### What a term finds among some segments -/

section

variable
  {context : Context}
  {content : List Segment}
  (given : context.nouns ≠ .null)
  (answered : context.nouns.AnswersNouns content)

include given answered

/-- A noun is found under the same name without the caller's nouns. -/
theorem nounOfTerm_staticNouns
    {ref : NounTerm}
    (present : Segment.term (.noun ref) ∈ content) :
    context.withoutNouns.nounOfTerm (.noun ((WordMap.staticNouns context.nouns).noun ref)) =
      context.nounOfTerm (.noun ref) := by
  unfold nounOfTerm
  cases asks : ref.argument with
  | none =>
      have unchanged : (WordMap.staticNouns context.nouns).noun ref = ref := by
        simp only [WordMap.staticNouns, asks]
      have asksNothing : (Term.noun ref).argument? = none := asks
      rw [unchanged, nounName?_of_no_argument _ asksNothing,
        nounName?_of_no_argument _ asksNothing]
      rfl
  | some index =>
      have renamed : (WordMap.staticNouns context.nouns).noun ref =
          { ref with name := context.nouns.nounNameAt index, argument := none } := by
        simp only [WordMap.staticNouns, asks]
      have asksArgument : (Term.noun ref).argument? = some index := asks
      have hasAnswer := answered ref index present asks
      rw [renamed, nounName?_of_no_argument _ rfl,
        nounName?_of_argument asksArgument given hasAnswer, Term.name?, filter_nounNameAt]
      rfl

theorem nounOf_staticNouns
    {segment : Segment}
    (present : segment ∈ content)
    (noPlural : segment.isPlural = false) :
    context.withoutNouns.nounOf (segment.mapWords (.staticNouns context.nouns)) =
      context.nounOf segment := by
  cases segment with
  | gap | text content | tag kind => rfl
  | term term =>
      cases term with
      | noun ref => exact nounOfTerm_staticNouns given answered present
      | plural argument fallback variants => cases noPlural
      | modifier ref | gender target fallback variants | counter target | bare kind => rfl

theorem wordOf_staticNouns
    {segment : Segment}
    (present : segment ∈ content) :
    context.withoutNouns.wordOf (segment.mapWords (.staticNouns context.nouns)) =
      context.wordOf segment := by
  cases segment with
  | gap | text content | tag kind => rfl
  | term term =>
      cases term with
      | noun ref => exact nounOfTerm_staticNouns given answered present
      | plural argument fallback variants | modifier ref | gender target fallback variants
      | counter target | bare kind => rfl

/-- A term that points at no plural phrase sees the same without the caller's nouns. -/
theorem seesAlike_staticNouns
    {term : Term}
    (present : Segment.term term ∈ content)
    (noPlural : Segment.PointsAtNoPlural content term.target?) :
    context.SeesAlike context.withoutNouns (.staticNouns context.nouns) content term where
  byItself := by
    cases term with
    | noun ref =>
        have sameNoun := nounOfTerm_staticNouns given answered present
        have sameWord : context.withoutNouns.nounWord
            ((WordMap.staticNouns context.nouns).noun ref) = context.nounWord ref := by
          funext noun
          exact nounWord_staticNouns context ref noun
        rw [SameByItself, nounText, nounText, sameNoun, sameWord]
    | modifier ref => exact ⟨⟨ref.name, ref.capitalized, rfl⟩, rfl⟩
    | plural argument fallback variants => rfl
    | gender target fallback variants | counter target | bare kind => trivial
  target segment pointed := {
    noun := nounOf_staticNouns given answered (Segment.mem_of_pointedAt pointed)
      (noPlural segment pointed)
    form := formOf_mapWords segment context.nouns }
  follower _ segment _ _ pointed :=
    wordOf_staticNouns given answered (Segment.mem_of_pointedAt pointed)

end

/-- A body renders without the caller's nouns as it does with them, once it holds their names. -/
theorem bodyText_withoutNouns
    (context : Context)
    {body : Body}
    (given : context.nouns ≠ .null)
    (named : body.NamedBy context.nouns)
    (noPlural : body.TargetsNoPlural) :
    context.bodyText body = context.withoutNouns.bodyText (body.withStaticNouns context.nouns) := by
  have sameGrammar : context.withoutNouns.grammar = context.grammar := rfl
  apply bodyText_eq_of_seesAlike sameGrammar
  intro content term reached
  have held := holds_of_reaches reached
  have answered : context.nouns.AnswersNouns content := by
    intro ref index present
    exact named content ref index (held.sibling present)
  exact seesAlike_staticNouns given answered held.mem (noPlural content term held)

end Context

namespace Localizer

/--
Nouns of the caller mean the nouns of the label with their names: a body that
points at no plural phrase renders to the same text, with the same requests,
when the names are written into it and no nouns are given.
-/
theorem bodyText_withStaticNouns
    (localizer : Localizer)
    {body : Body}
    {nouns : Value}
    (arguments : Value)
    (given : nouns ≠ .null)
    (named : body.NamedBy nouns)
    (noPlural : body.TargetsNoPlural) :
    (localizer.context nouns arguments).bodyText body =
      (localizer.context .null arguments).bodyText (body.withStaticNouns nouns) :=
  (localizer.context nouns arguments).bodyText_withoutNouns given named noPlural

/-- A body that names one noun of the caller and, in a gender variant, another with its article. -/
def namedTwice : Body :=
  .segments [
    .term (.noun ⟨none, some "s", true, some 0⟩),
    .term (.gender (some 0) (.text "") [("n", .segments [
      .text " is ",
      .term (.modifier ⟨.article, some "a", some "0-", false, some 3, some 3⟩),
      .text " ",
      .term (.noun ⟨none, some "s", false, some 1⟩)])])]

/-- An English localizer that knows one noun and the article. -/
def englishFruit : Localizer where
  catalog := {
    tables := [
      (.noun, [("apple", ⟨some "apple", [("s", "Apple")], some "v", .noun (some "n") none⟩)]),
      (.article, [("a", ⟨some "a", [("0-c", "a"), ("0-v", "an")], none, .modifier⟩)])]
    labels := [] }
  grammar := .ofFamily .english (.text "en") none none
  missing := "MISSING"

theorem bodyText_withStaticNouns_namedTwice :
    Value.list [.text "apple", .text "APPLE"] ≠ .null ∧
      namedTwice.NamedBy (.list [.text "apple", .text "APPLE"]) ∧
      namedTwice.TargetsNoPlural ∧
      ((englishFruit.context .null .null).bodyText
        (namedTwice.withStaticNouns (.list [.text "apple", .text "APPLE"]))).outcome =
          .ok "Apple is an apple" := by
  have given : Value.list [.text "apple", .text "APPLE"] ≠ .null := by simp
  have named : namedTwice.NamedBy (.list [.text "apple", .text "APPLE"]) := by
    intro content ref index held asks
    exact ⟨_, rfl⟩
  have noPlural : namedTwice.TargetsNoPlural := by
    intro content term held segment pointed
    simp [namedTwice, Body.reaches_segments, Term.phrases] at held
    rcases held with ⟨rfl, rfl | rfl⟩ | ⟨rfl, rfl | rfl⟩
    · cases pointed
    · cases pointed
      rfl
    · cases pointed
      rfl
    · cases pointed
  refine ⟨given, named, noPlural, ?_⟩
  rw [← bodyText_withStaticNouns englishFruit .null given named noPlural]
  decide +kernel

end Localizer
end Concord
