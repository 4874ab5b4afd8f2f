import Concord.Proofs.Plural.Limits
import Concord.Proofs.Rendering.Phrase
import Concord.Proofs.Rendering.Success

/-!
# Obstructed terms

A term obstructs its body if a number gets in the way of what it asks for: a
position too long to be looked up in a mapping, a value too long to be sorted,
or an undefined number that refuses to be compared.  A body renders exactly if
no term obstructs it that is reached by entering the phrases that are chosen.
-/

namespace Concord

namespace Context

variable (context : Context) (content : List Segment)

/-- A term asks the caller's nouns for a position that cannot be looked up. -/
def CannotName (term : Term) : Prop :=
  context.nouns.IsUnreadableAt term.argument?

/-- A segment that cannot be taken as a noun. -/
def ObstructsNoun (segment : Segment) : Prop :=
  ∃ term, segment = .term term ∧ context.CannotName term

/-- The segment at a position cannot be taken as a noun. -/
def ObstructsNounAt (position : Option Int) : Prop :=
  ∃ segment, Segment.pointedAt (Segment.among content) position = .ok (some segment) ∧
    context.ObstructsNoun segment

/-- The word after a modifier is a noun that cannot be named. -/
def ObstructsFollower (ref : ModifierTerm) : Prop :=
  ref.follower ≠ ref.target ∧
    ∃ noun, Segment.pointedAt (Segment.among content) ref.follower =
      .ok (some (.term (.noun noun))) ∧ context.CannotName (.noun noun)

/-- An argument by which no variant can be chosen. -/
def ObstructsChoice (argument : Option Int) (hasZero : Bool) : Prop :=
  context.arguments.IsUnreadableAt argument ∨
    ∃ value, context.arguments.entryAt argument = .ok value ∧
      (value.IsSignaling ∨
        (value.IsOverlong ∧ ¬ (value.isNumericZero = .ok true ∧ hasZero = true)))

/-- A term that cannot be rendered among the segments around it, its own phrases left aside. -/
def Obstructs : Term -> Prop
  | .noun ref => context.CannotName (.noun ref)
  | .modifier ref =>
      context.ObstructsNounAt content ref.target ∨
        ((∃ segment, Segment.pointedAt (Segment.among content) ref.target =
          .ok (some segment)) ∧ context.ObstructsFollower content ref)
  | .gender target _ _ => context.ObstructsNounAt content target
  | .plural argument _ variants =>
      context.ObstructsChoice argument (hasVariant PluralCategory.zero.name variants)
  | .counter target => context.ObstructsNounAt content target
  | .bare _ => False

variable {context content}

/-- A term can name its noun unless it asks for a position that cannot be looked up. -/
theorem nounName?_ok_iff (term : Term) :
    (∃ name, context.nounName? term = .ok name) ↔ ¬ context.CannotName term := by
  unfold nounName? CannotName
  split
  · rename_i asksNothing
    simp [Value.IsUnreadableAt, asksNothing]
  · rename_i index asks noNouns
    simp [Value.IsUnreadableAt, noNouns, Value.needsLongDigits]
  · rename_i index asks _
    rw [exists_map_ok_iff, Value.entryAt_ok_iff, asks]

theorem nounOfTerm_ok_iff (term : Term) :
    (∃ noun, context.nounOfTerm term = .ok noun) ↔ ¬ context.CannotName term := by
  rw [nounOfTerm, exists_map_ok_iff, nounName?_ok_iff]

theorem nounOf_ok_iff (segment : Segment) :
    (∃ noun, context.nounOf segment = .ok noun) ↔ ¬ context.ObstructsNoun segment := by
  cases segment with
  | term term => simp [nounOf, nounOfTerm_ok_iff, ObstructsNoun]
  | gap | text content | tag kind => simp [nounOf, ObstructsNoun]

theorem nounAt_ok_iff (position : Option Int) :
    (∃ noun, context.nounAt (Segment.among content) position = .ok noun) ↔
      ¬ context.ObstructsNounAt content position := by
  obtain ⟨target, pointed⟩ := Segment.pointedAt_ok content position
  unfold nounAt ObstructsNounAt
  rw [pointed]
  cases target with
  | none => exact ⟨fun _ => by simp, fun _ => ⟨none, rfl⟩⟩
  | some segment =>
      simp only [Except.ok.injEq, Option.some.injEq, exists_eq_left', ← nounOf_ok_iff]
      exact Iff.rfl

theorem wordOf_ok_iff (segment : Segment) :
    (∃ word, context.wordOf segment = .ok word) ↔
      ∀ ref, segment = .term (.noun ref) -> ¬ context.CannotName (.noun ref) := by
  cases segment with
  | gap | text content | tag kind => simp [wordOf]
  | term term =>
      cases term with
      | noun ref => simp [wordOf, nounOfTerm_ok_iff]
      | modifier ref | gender target fallback variants | plural argument fallback variants
      | counter target | bare kind => simp [wordOf]

/-- The word after a modifier can be found unless it is a noun that cannot be named. -/
theorem followerOf_ok_iff (ref : ModifierTerm) (noun : Option Lexeme) :
    (∃ next, context.followerOf (Segment.among content) ref noun = .ok next) ↔
      ¬ context.ObstructsFollower content ref := by
  unfold followerOf ObstructsFollower
  by_cases itsNoun : ref.follower = ref.target
  · simp [itsNoun]
  · obtain ⟨follower, pointed⟩ := Segment.pointedAt_ok content ref.follower
    rw [if_neg itsNoun, pointed]
    cases follower with
    | none => exact ⟨fun _ => by simp, fun _ => ⟨noun, rfl⟩⟩
    | some segment =>
        refine Iff.trans (wordOf_ok_iff segment) ?_
        simp [itsNoun]

/-- A modifier can make its request if its noun can be found and so can the word after it. -/
theorem requestFor_ok_iff (ref : ModifierTerm) (target : Segment) :
    (∃ request, context.requestFor (Segment.among content) ref target = .ok request) ↔
      ¬ context.ObstructsNoun target ∧ ¬ context.ObstructsFollower content ref := by
  rw [← nounOf_ok_iff]
  unfold requestFor
  cases found : context.nounOf target with
  | error error => simp [bind, Except.bind]
  | ok noun =>
      rw [← followerOf_ok_iff ref noun]
      cases followed : context.followerOf (Segment.among content) ref noun with
      | error error => simp [bind, Except.bind, followed]
      | ok next => simp [bind, Except.bind, pure, Except.pure, followed]

/-- A modifier has a text exactly if it obstructs nothing. -/
theorem modifierText_succeeds_iff (ref : ModifierTerm) :
    (context.modifierText (Segment.among content) ref).Succeeds ↔
      ¬ context.Obstructs content (.modifier ref) := by
  obtain ⟨target, pointed⟩ := Segment.pointedAt_ok content ref.target
  rw [modifierText, Rendering.succeeds_lift_bind, Obstructs, ObstructsNounAt, pointed]
  cases target with
  | none => simp
  | some segment => simp [Rendering.succeeds_lift_bind, requestFor_ok_iff]

/-- A variant is chosen exactly if its argument can be read and sorted. -/
theorem pluralKey_ok_iff (argument : Option Int) (hasZero : Bool) :
    (∃ key, context.pluralKey argument hasZero = .ok key) ↔
      ¬ context.ObstructsChoice argument hasZero := by
  unfold ObstructsChoice
  rw [not_or, ← Value.entryAt_ok_iff]
  cases read : context.arguments.entryAt argument with
  | error error => simp [pluralKey, bind, Except.bind, read]
  | ok value =>
      have compared := value.isNumericZero_ok_iff
      cases zero : value.isNumericZero with
      | error error =>
          have signaling : value.IsSignaling := by simpa [zero] using compared
          simp [pluralKey, bind, Except.bind, read, zero, signaling]
      | ok isZero =>
          have unsignaling : ¬ value.IsSignaling := compared.mp ⟨isZero, zero⟩
          rw [pluralKey_eq read zero]
          by_cases ownVariant : isZero = true ∧ hasZero = true
          · simp [ownVariant, unsignaling, zero]
          · rw [if_neg ownVariant, exists_map_ok_iff, Grammar.categoryOf, pluralCategory_ok_iff]
            simp [ownVariant, unsignaling, zero]

/-- A term is no obstruction exactly if it can choose its phrase, or has a text of its own. -/
theorem not_obstructs_iff (term : Term) :
    ¬ context.Obstructs content term ↔
      (∃ key, context.phraseKey (Segment.among content) term = .ok key) ∧
        (context.wordText (Segment.among content) term).Succeeds := by
  cases term with
  | noun ref =>
      simp [Obstructs, phraseKey, wordText, Rendering.succeeds_lift, nounText, exists_map_ok_iff,
        nounOfTerm_ok_iff]
  | modifier ref => simp [phraseKey, wordText, modifierText_succeeds_iff]
  | gender target fallback variants =>
      simp [Obstructs, phraseKey, wordText, genderKey, exists_map_ok_iff, nounAt_ok_iff]
  | plural argument fallback variants =>
      simp [Obstructs, phraseKey, wordText, exists_map_ok_iff, pluralKey_ok_iff]
  | counter target =>
      simp [Obstructs, phraseKey, wordText, Rendering.succeeds_lift, counterText,
        exists_map_ok_iff, nounAt_ok_iff]
  | bare kind => simp [Obstructs, phraseKey, wordText]

/-- Segments have a text together exactly if every term among them has one. -/
theorem segmentsText_succeeds_iff (neighbours : Neighbours) :
    (context.segmentsText content neighbours).Succeeds ↔
      ∀ term, Segment.term term ∈ content -> (context.termText term neighbours).Succeeds := by
  induction content with
  | nil => simp
  | cons segment rest inductionHypothesis =>
      rw [segmentsText_cons, Rendering.succeeds_append, inductionHypothesis]
      cases segment with
      | gap | text content | tag kind => simp [segmentText]
      | term first => simp [segmentText, or_imp, forall_and]

/-- A term that has phrases has no text of its own. -/
theorem wordText_of_mem_phrases
    {neighbours : Neighbours}
    {term : Term}
    {phrase : Body}
    (present : phrase ∈ term.phrases) :
    context.wordText neighbours term = .pure "" := by
  cases term with
  | gender target fallback variants | plural argument fallback variants => rfl
  | noun ref | modifier ref | counter target | bare kind => simp [Term.phrases] at present

/-- A term renders if it is no obstruction and the phrase that it chooses renders. -/
theorem termText_succeeds_iff (term : Term) :
    (context.termText term (Segment.among content)).Succeeds ↔
      ¬ context.Obstructs content term ∧
        ∀ phrase, context.Enters content term phrase -> (context.bodyText phrase).Succeeds := by
  have chooses : (∃ key, context.phraseKey (Segment.among content) term = .ok key) ↔
      ∃ choice, context.chosenPhrase (Segment.among content) term = .ok choice := by
    rw [chosenPhrase, exists_map_ok_iff]
  rw [termText_eq, Rendering.succeeds_lift_bind, not_obstructs_iff, chooses]
  unfold Enters
  cases chosen : context.chosenPhrase (Segment.among content) term with
  | error error => simp
  | ok choice =>
      cases choice with
      | none => simp
      | some phrase =>
          have noWord : context.wordText (Segment.among content) term = .pure "" :=
            wordText_of_mem_phrases (Enters.mem chosen)
          simp [noWord]

/-- A body renders exactly if no term that is reached in it is an obstruction. -/
theorem bodyText_succeeds_iff (context : Context) (body : Body) :
    (context.bodyText body).Succeeds ↔
      ∀ content term, body.Reaches context.Enters content term ->
        ¬ context.Obstructs content term := by
  induction body with
  | text content => simp
  | tag kind => simp
  | segments content inductionHypothesis =>
      rw [bodyText_segments, segmentsText_succeeds_iff]
      simp only [termText_succeeds_iff]
      constructor
      · intro renders inner term reached
        cases reached with
        | here present => exact (renders term present).1
        | within present entered reached =>
            exact (inductionHypothesis _ present _ entered.mem).mp
              ((renders _ present).2 _ entered) inner term reached
      · intro clear term present
        refine ⟨clear content term (.here present), ?_⟩
        intro phrase entered
        apply (inductionHypothesis term present phrase entered.mem).mpr
        intro inner nested reached
        exact clear inner nested (.within present entered reached)

end Context
end Concord
