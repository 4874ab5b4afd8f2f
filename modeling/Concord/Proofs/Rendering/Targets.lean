import Concord.Proofs.Catalog.History
import Concord.Proofs.Rendering.Obstruction
import Concord.Proofs.Rendering.StaticNouns

/-!
# What terms agree with

A modifier, a gender phrase and a counter word point at the segment that they
agree with.  A segment that is no noun reference can stand for a noun all the
same: a modifier stands for the noun of its own name, and a plural phrase for
the noun that the caller names at the position of its argument.  Terms agree
with no noun exactly if what they point at stands for none.
-/

namespace Concord

/-- Whether a segment is a noun reference. -/
def Segment.isNoun : Segment -> Bool
  | .term (.noun _) => true
  | _ => false

namespace Context

/-- A segment that is no noun reference stands for a noun of the dictionary all the same. -/
inductive StandsFor (context : Context) : Segment -> Lexeme -> Prop
  | modifier {ref : ModifierTerm} {name : String} {noun : Lexeme}
      (named : ref.name = some name)
      (notEmpty : name ≠ "")
      (filed : context.catalog.lexeme? .noun name = some noun) :
      StandsFor context (.term (.modifier ref)) noun
  | plural {index : Int} {fallback : Body} {variants : List (String × Body)}
      {name : String} {noun : Lexeme}
      (named : context.nouns.nounNameAt index = some name)
      (filed : context.catalog.lexeme? .noun name = some noun) :
      StandsFor context (.term (.plural (some index) fallback variants)) noun

/-- The request that a modifier makes when what it points at is no noun. -/
def requestWithoutNoun (context : Context) (ref : ModifierTerm) (target : Segment)
    (next : Option Lexeme) : AgreementRequest where
  kind := ref.kind
  form := ref.form
  nounForm := formOf target
  noun := none
  next := next
  answer := context.grammar.family.agreeingForm ref.kind ref.form none next

/--
Terms that point at a segment agree with no noun: a gender phrase has the text
of its fallback, a counter term the counter word of the grammar, and a modifier
makes its request without a noun.
-/
structure AgreesWithNoNoun (context : Context) (neighbours : Neighbours)
    (position : Option Int) (target : Segment) : Prop where
  /-- A gender phrase has the text of its fallback. -/
  gender : ∀ fallback variants,
    context.termText (.gender position fallback variants) neighbours = context.bodyText fallback
  /-- A counter term has the counter word of the grammar. -/
  counter : context.termText (.counter position) neighbours = .pure context.grammar.counterWord
  /-- A modifier makes its request without a noun. -/
  modifier : ∀ ref, ref.target = position ->
    context.termText (.modifier ref) neighbours =
      (Rendering.lift (context.followerOf neighbours ref none)).bind fun next =>
        .ask (context.requestWithoutNoun ref target next)
          (context.modifierWord ref (context.requestWithoutNoun ref target next).answer)

variable {context : Context} {neighbours : Neighbours} {position : Option Int} {target : Segment}

/-- A term is taken for the noun that is filed under the name that it finds a noun by. -/
theorem nounOf_term_eq_some_iff {term : Term} {noun : Lexeme} :
    context.nounOf (.term term) = .ok (some noun) ↔
      ∃ name, context.nounName? term = .ok (some name) ∧
        context.catalog.lexeme? .noun name = some noun := by
  rw [nounOf, nounOfTerm]
  cases context.nounName? term with
  | error error => simp [Except.map]
  | ok name => simp [Except.map, Option.bind_eq_some_iff]

theorem nounName?_modifier_eq_some_iff {ref : ModifierTerm} {name : String} :
    context.nounName? (.modifier ref) = .ok (some name) ↔ ref.name = some name ∧ name ≠ "" := by
  have ownName : context.nounName? (.modifier ref) = .ok (ref.name.filter (· ≠ "")) := rfl
  simp only [ownName, Except.ok.injEq, Option.filter_eq_some_iff, decide_eq_true_iff]

/-- A plural phrase finds a noun by the name that the caller gives at its position. -/
theorem nounName?_plural_eq_some_iff
    {index : Int}
    {fallback : Body}
    {variants : List (String × Body)}
    {name : String} :
    context.nounName? (.plural (some index) fallback variants) = .ok (some name) ↔
      context.nouns.nounNameAt index = some name := by
  have atIndex : context.nounName? (.plural (some index) fallback variants) =
      (context.nouns.entryAt (some index)).map givenName? := by
    rw [nounName?, Term.argument?]
    cases context.nouns <;> rfl
  rw [atIndex, Value.nounNameAt]
  cases context.nouns.entryAt (some index) with
  | error error => simp [Except.map, Except.toOption]
  | ok value => simp [Except.map, Except.toOption]

/-- A term other than a noun reference is taken for the noun that it stands for. -/
theorem nounOf_term_eq_some_iff_standsFor
    {term : Term}
    {noun : Lexeme}
    (noReference : (Segment.term term).isNoun = false) :
    context.nounOf (.term term) = .ok (some noun) ↔ context.StandsFor (.term term) noun := by
  rw [nounOf_term_eq_some_iff]
  constructor
  · rintro ⟨name, named, filed⟩
    cases term with
    | noun ref => cases noReference
    | modifier ref =>
        obtain ⟨written, notEmpty⟩ := nounName?_modifier_eq_some_iff.mp named
        exact .modifier written notEmpty filed
    | plural argument fallback variants =>
        cases argument with
        | none => cases named
        | some index => exact .plural (nounName?_plural_eq_some_iff.mp named) filed
    | gender target fallback variants | counter target | bare kind => cases named
  · intro stands
    cases stands with
    | modifier written notEmpty filed =>
        exact ⟨_, nounName?_modifier_eq_some_iff.mpr ⟨written, notEmpty⟩, filed⟩
    | plural named filed => exact ⟨_, nounName?_plural_eq_some_iff.mpr named, filed⟩

/-- What a segment other than a noun reference is taken for is what it stands for. -/
theorem nounOf_eq_some_iff
    {noun : Lexeme}
    (noReference : target.isNoun = false) :
    context.nounOf target = .ok (some noun) ↔ context.StandsFor target noun := by
  cases target with
  | term term => exact nounOf_term_eq_some_iff_standsFor noReference
  | gap | text content | tag kind =>
      constructor <;>
        intro impossible <;>
        cases impossible

/-- A segment other than a noun reference is taken for no noun unless it stands for one. -/
theorem nounOf_eq_none_iff (noReference : target.isNoun = false) :
    context.nounOf target = .ok none ↔
      (∀ noun, ¬ context.StandsFor target noun) ∧ ¬ context.ObstructsNoun target := by
  rw [← nounOf_ok_iff]
  simp only [← nounOf_eq_some_iff noReference]
  cases context.nounOf target with
  | error error => simp
  | ok noun => cases noun <;> simp

section

variable (pointed : Segment.pointedAt neighbours position = .ok (some target))

include pointed

theorem nounAt_of_pointedAt : context.nounAt neighbours position = context.nounOf target := by
  rw [nounAt, pointed]
  rfl

/-- Without a noun to agree with, a modifier still makes its request. -/
theorem modifierText_of_no_noun
    {ref : ModifierTerm}
    (aims : ref.target = position)
    (noNoun : context.nounOf target = .ok none) :
    context.modifierText neighbours ref =
      (Rendering.lift (context.followerOf neighbours ref none)).bind fun next =>
        .ask (context.requestWithoutNoun ref target next)
          (context.modifierWord ref (context.requestWithoutNoun ref target next).answer) := by
  have request : context.requestFor neighbours ref target =
      (context.followerOf neighbours ref none).map (context.requestWithoutNoun ref target) := by
    rw [requestFor, noNoun]
    simp only [bind, Except.bind]
    cases context.followerOf neighbours ref none <;> rfl
  rw [modifierText, aims, pointed, Rendering.lift_ok, Rendering.pure_bind]
  dsimp only
  rw [request]
  cases context.followerOf neighbours ref none <;> rfl

/-- A segment that is taken for no noun gives the terms that point at it none. -/
theorem agreesWithNoNoun_of_nounOf (noNoun : context.nounOf target = .ok none) :
    context.AgreesWithNoNoun neighbours position target where
  gender fallback variants := by
    rw [termText, genderKey, nounAt_of_pointedAt pointed, noNoun]
    rfl
  counter := by
    rw [termText, counterText, nounAt_of_pointedAt pointed, noNoun]
    rfl
  modifier ref aims := modifierText_of_no_noun pointed aims noNoun

/-- A modifier that is followed by its own noun shows what it takes its noun segment for. -/
theorem nounOf_of_agreesWithNoNoun (agrees : context.AgreesWithNoNoun neighbours position target) :
    context.nounOf target = .ok none := by
  -- The word after such a modifier is the noun itself, so its request cannot hide one.
  have asked := agrees.modifier ⟨.adjective, none, none, false, position, position⟩ rfl
  rw [termText, modifierText, pointed, followerOf, if_pos rfl] at asked
  simp only [Rendering.lift_ok, Rendering.pure_bind] at asked
  have requests := congrArg Rendering.requests asked
  cases found : context.nounOf target with
  | error error =>
      simp [requestFor, found, bind, Except.bind, Rendering.lift, Rendering.bind,
        Rendering.ask] at requests
  | ok noun =>
      cases noun with
      | none => rfl
      | some noun =>
          simp [requestFor, found, followerOf, bind, Except.bind, pure, Except.pure,
            Rendering.lift, Rendering.bind, Rendering.ask, requestWithoutNoun] at requests

/--
Terms that point at a segment other than a noun reference agree with no noun
exactly if the segment stands for none: if it is no modifier named like a noun
of the dictionary, and no plural phrase at whose position the caller names such
a noun or cannot be asked for a name.
-/
theorem agreesWithNoNoun_iff (noReference : target.isNoun = false) :
    context.AgreesWithNoNoun neighbours position target ↔
      (∀ noun, ¬ context.StandsFor target noun) ∧ ¬ context.ObstructsNoun target := by
  rw [← nounOf_eq_none_iff noReference]
  constructor
  · intro agrees
    exact nounOf_of_agreesWithNoNoun pointed agrees
  · intro noNoun
    exact agreesWithNoNoun_of_nounOf pointed noNoun

end

end Context

namespace Localizer

/--
A dictionary with one noun, and two labels that count by what is no noun
reference: an adjective with the name of the noun, and a plural phrase.
-/
def countedBooks : Value :=
  .map [
    (.text "labels", .map [
      (.text "adjective", .list [
        .map [(.text "t", .text "a"), (.text "l", .text "book")],
        .map [(.text "t", .text "c"), (.text "an", .integer 0)]]),
      (.text "plural", .list [
        .map [(.text "t", .text "p"), (.text "i", .integer 0)],
        .map [(.text "t", .text "c"), (.text "an", .integer 0)]])]),
    (.text "terms", .map [
      (.text "n", .map [(.text "book", .map [(.text "c", .text "本")])])])]

/-- A Chinese localizer for these labels. -/
def chineseBooks : Localizer :=
  ofLocale {} (MergeCall.catalogAfter [.bundle countedBooks]) (some (.text "zh"))

/-- Pointed at, both give the counter word of the noun and not the one of the grammar. -/
theorem counterWord_of_no_noun_reference :
    chineseBooks.grammar.counterWord = "个" ∧
      (chineseBooks.text (.text "adjective") .null .null).outcome = .ok "本" ∧
      (chineseBooks.text (.text "plural") (.list [.text "book"]) .null).outcome = .ok "本" := by
  decide +kernel

/-- Without nouns of the caller the plural phrase stands for none, and the grammar's word counts. -/
theorem agreesWithNoNoun_plural_without_nouns :
    Segment.pointedAt (Segment.among [.term (.plural (some 0) (.text "") [])]) (some 0) =
        .ok (some (.term (.plural (some 0) (.text "") []))) ∧
      (Segment.term (.plural (some 0) (.text "") [])).isNoun = false ∧
      (chineseBooks.context .null .null).termText (.counter (some 0))
        (Segment.among [.term (.plural (some 0) (.text "") [])]) = .pure "个" := by
  have pointed : Segment.pointedAt (Segment.among [.term (.plural (some 0) (.text "") [])])
      (some 0) = .ok (some (.term (.plural (some 0) (.text "") []))) := rfl
  have noReference : (Segment.term (.plural (some 0) (.text "") [])).isNoun = false := rfl
  have standsForNone (noun : Lexeme) : ¬ (chineseBooks.context .null .null).StandsFor
      (.term (.plural (some 0) (.text "") [])) noun := by
    intro stands
    cases stands with
    | plural named filed => cases named
  have asked : ¬ (chineseBooks.context .null .null).ObstructsNoun
      (.term (.plural (some 0) (.text "") [])) := by
    rintro ⟨term, _, index, _, long⟩
    cases long
  refine ⟨pointed, noReference, ?_⟩
  exact ((Context.agreesWithNoNoun_iff pointed noReference).mpr ⟨standsForNone, asked⟩).counter

end Localizer
end Concord
