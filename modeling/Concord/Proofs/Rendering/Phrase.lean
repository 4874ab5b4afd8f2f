import Concord.Proofs.Term.Nesting
import Concord.Rendering.Body

/-!
# Choosing phrases

A term either has a text of its own or chooses one of its phrases by a key and
has the text of that phrase.  A body is therefore rendered by following the
phrases that its terms choose.
-/

namespace Concord

namespace Term

/-- The variant under a key, or else the fallback. -/
def variantFor (key : Option String) (fallback : Body) (variants : List (String × Body)) : Body :=
  (key.bind (Table.get? variants)).getD fallback

/-- The phrase that a term chooses by a key, if it is one that chooses. -/
def phraseFor (key : Option String) : Term -> Option Body
  | .gender _ fallback variants => some (variantFor key fallback variants)
  | .plural _ fallback variants => some (variantFor key fallback variants)
  | _ => none

theorem get?_mem_map_snd
    {variants : List (String × Body)}
    {key : String}
    {phrase : Body}
    (found : Table.get? variants key = some phrase) :
    phrase ∈ variants.map Prod.snd :=
  List.mem_map.mpr ⟨(key, phrase), Table.mem_of_get? found, rfl⟩

theorem variantFor_mem
    (key : Option String)
    (fallback : Body)
    (variants : List (String × Body)) :
    variantFor key fallback variants ∈ fallback :: variants.map Prod.snd := by
  unfold variantFor
  cases found : key.bind (Table.get? variants) with
  | none => exact List.mem_cons_self
  | some phrase =>
      obtain ⟨name, _, inTable⟩ := Option.bind_eq_some_iff.mp found
      exact List.mem_cons_of_mem _ (get?_mem_map_snd inTable)

/-- What a term chooses is one of its phrases. -/
theorem phraseFor_mem
    {key : Option String}
    {term : Term}
    {phrase : Body}
    (chosen : term.phraseFor key = some phrase) :
    phrase ∈ term.phrases := by
  cases term with
  | gender target fallback variants | plural argument fallback variants =>
      obtain rfl := Option.some.inj chosen
      exact variantFor_mem key fallback variants
  | noun ref | modifier ref | counter target | bare kind => cases chosen

end Term

namespace Context

/-- The key by which a term chooses its phrase; other terms need none. -/
def phraseKey (context : Context) (neighbours : Neighbours) :
    Term -> Except NumberError (Option String)
  | .gender target _ _ => context.genderKey neighbours target
  | .plural argument _ variants =>
      (context.pluralKey argument (hasVariant PluralCategory.zero.name variants)).map some
  | _ => .ok none

/-- The phrase that a term chooses, if it is one that chooses. -/
def chosenPhrase (context : Context) (neighbours : Neighbours) (term : Term) :
    Except NumberError (Option Body) :=
  (context.phraseKey neighbours term).map term.phraseFor

/-- The text of a term that chooses no phrase. -/
def wordText (context : Context) (neighbours : Neighbours) : Term -> Rendering String
  | .noun ref => .lift (context.nounText ref)
  | .modifier ref => context.modifierText neighbours ref
  | .counter target => .lift (context.counterText neighbours target)
  | _ => .pure ""

/-- A value that is read chooses the variant of zero, if it may, or else by its category. -/
theorem pluralKey_eq
    {context : Context}
    {argument : Option Int}
    {hasZero isZero : Bool}
    {value : Value}
    (read : context.arguments.entryAt argument = .ok value)
    (compared : value.isNumericZero = .ok isZero) :
    context.pluralKey argument hasZero =
      if isZero = true ∧ hasZero = true then
        .ok PluralCategory.zero.name
      else
        (context.grammar.categoryOf value).map PluralCategory.name := by
  unfold pluralKey
  rw [read]
  simp only [bind, Except.bind, compared, Bool.and_eq_true]
  split
  · rfl
  · cases context.grammar.categoryOf value <;> rfl

/-- Where an argument cannot be looked up, no variant can be chosen. -/
theorem pluralKey_of_refused
    {context : Context}
    {argument : Option Int}
    {error : NumberError}
    (refused : context.arguments.entryAt argument = .error error)
    (hasZero : Bool) :
    context.pluralKey argument hasZero = .error error := by
  rw [pluralKey, refused]
  rfl

/-- Where an argument cannot be compared with zero, no variant can be chosen. -/
theorem pluralKey_of_uncompared
    {context : Context}
    {argument : Option Int}
    {value : Value}
    {error : NumberError}
    (read : context.arguments.entryAt argument = .ok value)
    (uncompared : value.isNumericZero = .error error)
    (hasZero : Bool) :
    context.pluralKey argument hasZero = .error error := by
  simp only [pluralKey, read, bind, Except.bind, uncompared]

/-- A variant is chosen by the number zero, if it has one of its own, or else by a category. -/
theorem exists_of_pluralKey
    {context : Context}
    {argument : Option Int}
    {hasZero : Bool}
    {key : String}
    (chosen : context.pluralKey argument hasZero = .ok key) :
    ∃ value isZero, context.arguments.entryAt argument = .ok value ∧
      value.isNumericZero = .ok isZero ∧
      ((isZero = true ∧ hasZero = true ∧ key = PluralCategory.zero.name) ∨
        (¬ (isZero = true ∧ hasZero = true) ∧
          ∃ category, context.grammar.categoryOf value = .ok category ∧ key = category.name)) := by
  cases read : context.arguments.entryAt argument with
  | error error =>
      rw [pluralKey_of_refused read] at chosen
      cases chosen
  | ok value =>
      cases compared : value.isNumericZero with
      | error error =>
          rw [pluralKey_of_uncompared read compared] at chosen
          cases chosen
      | ok isZero =>
          refine ⟨value, isZero, rfl, compared, ?_⟩
          rw [pluralKey_eq read compared] at chosen
          split at chosen
          case isTrue ownVariant =>
            exact .inl ⟨ownVariant.1, ownVariant.2, (Except.ok.inj chosen).symm⟩
          case isFalse otherwise =>
            cases sorted : context.grammar.categoryOf value with
            | error error =>
                rw [sorted] at chosen
                cases chosen
            | ok category =>
                rw [sorted] at chosen
                exact .inr ⟨otherwise, category, rfl, (Except.ok.inj chosen).symm⟩

theorem variantText?_eq
    (context : Context)
    (key : String)
    (variants : List (String × Body)) :
    context.variantText? key variants = (Table.get? variants key).map context.bodyText := by
  induction variants with
  | nil => rfl
  | cons variant rest inductionHypothesis =>
      obtain ⟨name, body⟩ := variant
      rw [variantText?, Table.get?_cons]
      split
      · rfl
      · exact inductionHypothesis

theorem bodyText_variantFor
    (context : Context)
    (key : Option String)
    (fallback : Body)
    (variants : List (String × Body)) :
    context.bodyText (Term.variantFor key fallback variants) =
      (key.bind fun name => context.variantText? name variants).getD
        (context.bodyText fallback) := by
  unfold Term.variantFor
  cases key with
  | none => rfl
  | some name =>
      rw [Option.bind_some, Option.bind_some, variantText?_eq]
      cases Table.get? variants name <;> rfl

/-- A term renders as the phrase that it chooses, or as its own text. -/
theorem termText_eq (context : Context) (neighbours : Neighbours) (term : Term) :
    context.termText term neighbours =
      (Rendering.lift (context.chosenPhrase neighbours term)).bind fun chosen =>
        match chosen with
        | some phrase => context.bodyText phrase
        | none => context.wordText neighbours term := by
  unfold chosenPhrase
  cases term with
  | gender target fallback variants =>
      rw [termText, phraseKey]
      cases context.genderKey neighbours target with
      | error error => rfl
      | ok key =>
          simp only [Except.map, Rendering.lift_ok, Rendering.pure_bind, Term.phraseFor]
          rw [bodyText_variantFor]
          cases key <;> rfl
  | plural argument fallback variants =>
      rw [termText, phraseKey]
      cases context.pluralKey argument (hasVariant PluralCategory.zero.name variants) with
      | error error => rfl
      | ok key =>
          simp only [Except.map, Rendering.lift_ok, Rendering.pure_bind, Term.phraseFor]
          rw [bodyText_variantFor]
          rfl
  | noun ref | modifier ref | counter target | bare kind => rfl

/-- A phrase is entered when the term that holds it chooses it. -/
def Enters (context : Context) (content : List Segment) (term : Term) (phrase : Body) : Prop :=
  context.chosenPhrase (Segment.among content) term = .ok (some phrase)

/-- A phrase that is entered is one of the phrases of its term. -/
theorem Enters.mem
    {context : Context}
    {content : List Segment}
    {term : Term}
    {phrase : Body}
    (entered : context.Enters content term phrase) :
    phrase ∈ term.phrases := by
  unfold Enters chosenPhrase at entered
  cases keyed : context.phraseKey (Segment.among content) term with
  | error error =>
      rw [keyed] at entered
      cases entered
  | ok key =>
      rw [keyed] at entered
      exact Term.phraseFor_mem (Except.ok.inj entered)

/-- What is reached by entering the chosen phrases lies in the body. -/
theorem holds_of_reaches
    {context : Context}
    {body : Body}
    {content : List Segment}
    {term : Term}
    (reached : body.Reaches context.Enters content term) :
    body.Holds content term :=
  reached.mono fun _ _ _ entered => entered.mem

end Context
end Concord
