import Concord.Proofs.Rendering.Targets

/-!
# The word after a modifier

A modifier asks for the form that agrees with its noun and with the word after
it.  If it points at its noun once more, or at no segment, the word after it is
the noun; if it points at another segment, it is the word that this segment
stands for.  A segment that stands for no word hides the noun: it is not made
up for, and the modifier asks as if nothing came after it.
-/

namespace Concord
namespace Context

/-- A reference stands for a word: for the noun that it finds, or for its own modifier. -/
inductive StandsForWord (context : Context) : Segment -> Lexeme -> Prop
  | noun {ref : NounTerm} {name : String} {word : Lexeme}
      (named : context.nounName? (.noun ref) = .ok (some name))
      (filed : context.catalog.lexeme? .noun name = some word) :
      StandsForWord context (.term (.noun ref)) word
  | modifier {ref : ModifierTerm} {name : String} {word : Lexeme}
      (named : ref.name = some name)
      (filed : context.catalog.lexeme? ref.kind.toTermKind name = some word) :
      StandsForWord context (.term (.modifier ref)) word

/-- The segment at a position stands for a word. -/
def HasWordAt (context : Context) (neighbours : Neighbours) (position : Option Int)
    (word : Lexeme) : Prop :=
  ∃ segment, Segment.pointedAt neighbours position = .ok (some segment) ∧
    context.StandsForWord segment word

/-- A modifier asks with the word that stands after it, and without one with its noun. -/
structure FallsBackToNoun (context : Context) (neighbours : Neighbours) (ref : ModifierTerm)
    (noun next : Option Lexeme) : Prop where
  /-- A word that stands there is the one that is asked with. -/
  word : ∀ word, context.HasWordAt neighbours ref.follower word -> next = some word
  /-- Without such a word the noun is. -/
  noun : (∀ word, ¬ context.HasWordAt neighbours ref.follower word) -> next = noun

/-- A modifier with a noun points past it at a segment that stands for no word. -/
structure HidesNoun (context : Context) (neighbours : Neighbours) (ref : ModifierTerm)
    (noun : Option Lexeme) : Prop where
  /-- The modifier does not point at its noun as the word after it. -/
  elsewhere : ref.follower ≠ ref.target
  /-- There is a segment where it points. -/
  present : ∃ segment, Segment.pointedAt neighbours ref.follower = .ok (some segment)
  /-- That segment stands for no word. -/
  wordless : ∀ word, ¬ context.HasWordAt neighbours ref.follower word
  /-- There is a noun to fall back to. -/
  hidden : noun ≠ none

variable
  {context : Context} {neighbours : Neighbours} {content : List Segment}
  {ref : ModifierTerm} {target : Segment}

/-- The word of a segment is the one that it stands for. -/
theorem wordOf_eq_some_iff {segment : Segment} {word : Lexeme} :
    context.wordOf segment = .ok (some word) ↔ context.StandsForWord segment word := by
  constructor
  · intro found
    cases segment with
    | gap | text content | tag kind => cases found
    | term term =>
        cases term with
        | noun ref =>
            obtain ⟨name, named, filed⟩ := nounOf_term_eq_some_iff.mp found
            exact .noun named filed
        | modifier ref =>
            obtain ⟨name, named, filed⟩ := Option.bind_eq_some_iff.mp (Except.ok.inj found)
            exact .modifier named filed
        | gender target fallback variants | plural argument fallback variants
        | counter target | bare kind => cases found
  · intro stands
    cases stands with
    | noun named filed => exact nounOf_term_eq_some_iff.mpr ⟨_, named, filed⟩
    | modifier named filed =>
        exact congrArg Except.ok (Option.bind_eq_some_iff.mpr ⟨_, named, filed⟩)

/-- What a modifier makes of the position after it, one case for each thing it can find there. -/
inductive Follows (context : Context) (neighbours : Neighbours) (ref : ModifierTerm)
    (noun : Option Lexeme) : Option Lexeme -> Prop
  | again (same : ref.follower = ref.target) : Follows context neighbours ref noun noun
  | nothing (elsewhere : ref.follower ≠ ref.target)
      (pointed : Segment.pointedAt neighbours ref.follower = .ok none) :
      Follows context neighbours ref noun noun
  | segment {segment : Segment} {next : Option Lexeme} (elsewhere : ref.follower ≠ ref.target)
      (pointed : Segment.pointedAt neighbours ref.follower = .ok (some segment))
      (found : context.wordOf segment = .ok next) : Follows context neighbours ref noun next

theorem follows_of_followerOf
    {noun next : Option Lexeme}
    (followed : context.followerOf neighbours ref noun = .ok next) :
    context.Follows neighbours ref noun next := by
  rw [followerOf] at followed
  split at followed
  case isTrue same =>
    cases followed
    exact .again same
  case isFalse elsewhere =>
    cases pointed : Segment.pointedAt neighbours ref.follower with
    | error error => simp [pointed, bind, Except.bind] at followed
    | ok found =>
        rw [pointed] at followed
        cases found with
        | none =>
            cases followed
            exact .nothing elsewhere pointed
        | some segment => exact .segment elsewhere pointed followed

/-- A request that is made carries the noun of its target and the word that follows. -/
theorem follows_of_requestFor
    {request : AgreementRequest}
    (made : context.requestFor neighbours ref target = .ok request) :
    context.nounOf target = .ok request.noun ∧
      context.Follows neighbours ref request.noun request.next := by
  rw [requestFor] at made
  cases found : context.nounOf target with
  | error error => simp [found, bind, Except.bind] at made
  | ok noun =>
      cases followed : context.followerOf neighbours ref noun with
      | error error => simp [found, followed, bind, Except.bind] at made
      | ok next =>
          simp only [found, followed, bind, Except.bind, pure, Except.pure,
            Except.ok.injEq] at made
          cases made
          exact ⟨rfl, follows_of_followerOf followed⟩

/-- What a modifier that points at its noun only sees there is its noun. -/
theorem nounOf_of_standsForWord
    {word : Lexeme}
    (noModifier : ∀ other, target ≠ .term (.modifier other))
    (stands : context.StandsForWord target word) :
    context.nounOf target = .ok (some word) := by
  cases stands with
  | noun named filed => exact nounOf_term_eq_some_iff.mpr ⟨_, named, filed⟩
  | modifier named filed => exact absurd rfl (noModifier _)

theorem standsForWord_of_hasWordAt
    {position : Option Int}
    {segment : Segment}
    {word : Lexeme}
    (pointed : Segment.pointedAt neighbours position = .ok (some segment))
    (stands : context.HasWordAt neighbours position word) :
    context.StandsForWord segment word := by
  obtain ⟨other, found, stands⟩ := stands
  rw [pointed] at found
  cases found
  exact stands

/-- At a segment that stands for no word, no word is found. -/
theorem wordOf_eq_none
    {position : Option Int}
    {segment : Segment}
    {next : Option Lexeme}
    (present : Segment.pointedAt neighbours position = .ok (some segment))
    (wordless : ∀ word, ¬ context.HasWordAt neighbours position word)
    (found : context.wordOf segment = .ok next) :
    next = none := by
  rw [Option.eq_none_iff_forall_ne_some]
  rintro word rfl
  exact wordless word ⟨segment, present, wordOf_eq_some_iff.mp found⟩

section

variable {noun next : Option Lexeme}

/-- A modifier whose noun is hidden asks with no word at all. -/
theorem next_eq_none_of_hidesNoun
    (follows : context.Follows neighbours ref noun next)
    (hides : context.HidesNoun neighbours ref noun) :
    next = none := by
  cases follows with
  | again same => exact absurd same hides.elsewhere
  | nothing _ pointed =>
      obtain ⟨segment, present⟩ := hides.present
      rw [pointed] at present
      cases present
  | segment _ present found => exact wordOf_eq_none present hides.wordless found

/-- A modifier falls back to its noun unless the noun is hidden. -/
theorem fallsBackToNoun_iff
    (pointed : Segment.pointedAt neighbours ref.target = .ok (some target))
    (found : context.nounOf target = .ok noun)
    (follows : context.Follows neighbours ref noun next)
    (noModifier : ref.follower = ref.target -> ∀ other, target ≠ .term (.modifier other)) :
    context.FallsBackToNoun neighbours ref noun next ↔
      ¬ context.HidesNoun neighbours ref noun := by
  constructor
  · intro fallsBack hides
    apply hides.hidden
    rw [← fallsBack.noun hides.wordless, next_eq_none_of_hidesNoun follows hides]
  · intro shown
    cases follows with
    | again same =>
        refine ⟨?_, fun _ => rfl⟩
        intro word stands
        rw [same] at stands
        -- Only a modifier can stand for another word than for the noun that it is taken for.
        have itsWord := nounOf_of_standsForWord (noModifier same)
          (standsForWord_of_hasWordAt pointed stands)
        exact Except.ok.inj (found.symm.trans itsWord)
    | nothing _ empty =>
        refine ⟨?_, fun _ => rfl⟩
        rintro word ⟨segment, present, -⟩
        rw [empty] at present
        cases present
    | segment elsewhere present foundNext =>
        constructor
        case word =>
          intro word stands
          have itsWord := wordOf_eq_some_iff.mpr (standsForWord_of_hasWordAt present stands)
          exact Except.ok.inj (foundNext.symm.trans itsWord)
        case noun =>
          intro wordless
          rw [wordOf_eq_none present wordless foundNext]
          cases noun with
          | none => rfl
          | some noun =>
              exact absurd ⟨elsewhere, ⟨_, present⟩, wordless, Option.some_ne_none noun⟩ shown

end

/--
A modifier that points at a segment makes one request, for the noun that this
segment is taken for, unless an index stands in the way that cannot be looked
up.  If it points there once more for the word after it, that word is the noun.
At any other position it is the word that stands there, and the noun if there
is none, exactly if the noun is not hidden; if it is, there is no such word.
-/
theorem modifier_asks_with_next_word
    (pointed : Segment.pointedAt (Segment.among content) ref.target = .ok (some target)) :
    (context.Obstructs content (.modifier ref) ∧
      (context.termText (.modifier ref) (Segment.among content)).requests = []) ∨
    ∃ request, (context.termText (.modifier ref) (Segment.among content)).requests = [request] ∧
      context.nounOf target = .ok request.noun ∧
      (ref.follower = ref.target -> request.next = request.noun) ∧
      ((ref.follower = ref.target -> ∀ other, target ≠ .term (.modifier other)) ->
        (context.FallsBackToNoun (Segment.among content) ref request.noun request.next ↔
          ¬ context.HidesNoun (Segment.among content) ref request.noun)) ∧
      (context.HidesNoun (Segment.among content) ref request.noun -> request.next = none) := by
  rw [termText, modifierText, pointed, Rendering.lift_ok, Rendering.pure_bind]
  dsimp only
  cases made : context.requestFor (Segment.among content) ref target with
  | error error =>
      refine .inl ⟨Classical.not_not.mp fun clear => ?_, rfl⟩
      rw [Obstructs, not_or] at clear
      obtain ⟨request, succeeds⟩ := (requestFor_ok_iff ref target).mpr
        ⟨fun noun => clear.1 ⟨target, pointed, noun⟩,
          fun follower => clear.2 ⟨⟨target, pointed⟩, follower⟩⟩
      rw [made] at succeeds
      cases succeeds
  | ok request =>
      obtain ⟨found, follows⟩ := follows_of_requestFor made
      refine .inr ⟨request, rfl, found, ?_, fallsBackToNoun_iff pointed found follows,
        next_eq_none_of_hidesNoun follows⟩
      intro same
      generalize request.next = next at follows ⊢
      cases follows with
      | again _ => rfl
      | nothing elsewhere _ | segment elsewhere _ _ => exact absurd same elsewhere

end Context

namespace Localizer

/-- An article in front of an apple, with a ripe one or just a blank in between. -/
def labelledApples : Value :=
  .map [
    (.text "labels", .map [
      (.text "ripe", .list [
        .map [(.text "t", .text "d"), (.text "l", .text "a"), (.text "f", .text "0-"),
          (.text "an", .integer 2), (.text "nt", .integer 1)],
        .map [(.text "t", .text "a"), (.text "l", .text "ripe"), (.text "f", .text "0"),
          (.text "an", .integer 2), (.text "nt", .integer 2)],
        .map [(.text "t", .text "n"), (.text "l", .text "apple"), (.text "f", .text "0")]]),
      (.text "blank", .list [
        .map [(.text "t", .text "d"), (.text "l", .text "a"), (.text "f", .text "0-"),
          (.text "an", .integer 2), (.text "nt", .integer 1)],
        .text " ",
        .map [(.text "t", .text "n"), (.text "l", .text "apple"), (.text "f", .text "0")]])]),
    (.text "terms", .map [
      (.text "n", .map [(.text "apple", .map [(.text "s", .text "v"),
        (.text "v", .map [(.text "0", .text "apple")])])]),
      (.text "a", .map [(.text "ripe", .map [(.text "s", .text "c"),
        (.text "v", .map [(.text "0", .text "ripe")])])]),
      (.text "d", .map [(.text "a", .map [
        (.text "v", .map [(.text "0-c", .text "a"), (.text "0-v", .text "an")])])])])]

/-- An English localizer for these labels. -/
def englishApples : Localizer :=
  ofLocale {} (MergeCall.catalogAfter [.bundle labelledApples]) (some (.text "en"))

/-- The article of these labels. -/
def appleArticle : ModifierTerm :=
  ⟨.article, some "a", some "0-", false, some 2, some 1⟩

/-- The body of the label with the ripe apple. -/
def ripeApple : List Segment := [
  .term (.modifier appleArticle),
  .term (.modifier ⟨.adjective, some "ripe", some "0", false, some 2, some 2⟩),
  .term (.noun ⟨some "apple", some "0", false, none⟩)]

/-- In front of a ripe apple the article asks with the adjective. -/
theorem modifier_asks_with_adjective :
    Segment.pointedAt (Segment.among ripeApple) appleArticle.target =
        .ok (some (.term (.noun ⟨some "apple", some "0", false, none⟩))) ∧
      ∃ word, englishApples.catalog.lexeme? .adjective "ripe" = some word ∧
        ((englishApples.context .null .null).termText (.modifier appleArticle)
          (Segment.among ripeApple)).requests.map AgreementRequest.next = [some word] := by
  have pointed : Segment.pointedAt (Segment.among ripeApple) appleArticle.target =
      .ok (some (.term (.noun ⟨some "apple", some "0", false, none⟩))) := rfl
  refine ⟨pointed, ?_⟩
  obtain ⟨word, filed⟩ : ∃ word, englishApples.catalog.lexeme? .adjective "ripe" = some word :=
    Option.isSome_iff_exists.mp (by decide +kernel)
  refine ⟨word, filed, ?_⟩
  have stands : (englishApples.context .null .null).HasWordAt (Segment.among ripeApple)
      appleArticle.follower word :=
    ⟨_, rfl, .modifier rfl filed⟩
  obtain ⟨-, silent⟩ | ⟨request, made, -, -, fallsBack, -⟩ :=
    @Context.modifier_asks_with_next_word (englishApples.context .null .null) _ _ _ pointed
  · have asks : ((englishApples.context .null .null).termText (.modifier appleArticle)
        (Segment.among ripeApple)).requests ≠ [] := by decide +kernel
    exact absurd silent asks
  · have notTwice : appleArticle.follower ≠ appleArticle.target := by decide
    have shown := (fallsBack fun same => absurd same notTwice).mpr
      fun hides => hides.wordless word stands
    rw [made, List.map_singleton, shown.word word stands]

/-- A blank after the article hides the noun, and the article does not agree with it. -/
theorem blank_hides_noun :
    (englishApples.catalog.lexeme? .noun "apple").isSome = true ∧
      ((englishApples.text (.text "blank") .null .null).requests.map fun request =>
        (request.noun, request.next)) = [(englishApples.catalog.lexeme? .noun "apple", none)] ∧
      (englishApples.text (.text "blank") .null .null).outcome = .ok "a apple" := by
  decide +kernel

end Localizer
end Concord
