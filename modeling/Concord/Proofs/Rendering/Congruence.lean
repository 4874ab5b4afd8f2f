import Concord.Proofs.Rendering.Phrase
import Concord.Proofs.Term.Mapping

/-!
# Equal renderings

Two contexts render a body and a rewriting of it alike as soon as they agree on
every term that is reached: on the phrase that it chooses, or on its own text.
-/

namespace Concord

variable {context other : Context} {words : WordMap}

theorem Term.phraseFor_mapWords (words : WordMap) (key : Option String) (term : Term) :
    (term.mapWords words).phraseFor key = (term.phraseFor key).map (Body.mapWords words) := by
  have variantFor_map (fallback : Body) (variants : List (String × Body)) :
      variantFor key (Body.mapWords words fallback) (mapVariantWords words variants) =
        Body.mapWords words (variantFor key fallback variants) := by
    unfold variantFor
    cases key with
    | none => rfl
    | some name =>
        rw [Option.bind_some, Option.bind_some, get?_mapVariantWords]
        cases Table.get? variants name <;> rfl
  cases term with
  | gender target fallback variants | plural argument fallback variants =>
      simp only [mapWords, phraseFor, variantFor_map, Option.map_some]
  | noun ref | modifier ref | counter target | bare kind => rfl

namespace Context

theorem hasVariant_mapVariantWords
    (words : WordMap)
    (key : String)
    (variants : List (String × Body)) :
    hasVariant key (mapVariantWords words variants) = hasVariant key variants := by
  rw [hasVariant, mapVariantWords_eq, List.any_map]
  rfl

/-- Two contexts agree on a term among its segments and on what it is rewritten to. -/
structure AgreesOn (context other : Context) (words : WordMap) (content : List Segment)
    (term : Term) : Prop where
  /-- The rewritten term chooses the rewriting of the phrase that the term chooses. -/
  choice : other.chosenPhrase (Segment.among (content.map (Segment.mapWords words)))
      (term.mapWords words) =
    (context.chosenPhrase (Segment.among content) term).map (Option.map (Body.mapWords words))
  /-- The rewritten term has the same text of its own. -/
  word : other.wordText (Segment.among (content.map (Segment.mapWords words)))
      (term.mapWords words) =
    context.wordText (Segment.among content) term

/-- What is chosen by the same key is the same phrase, rewritten. -/
theorem chosenPhrase_mapWords
    {neighbours changed : Neighbours}
    {term : Term}
    (sameKey : other.phraseKey changed (term.mapWords words) =
      context.phraseKey neighbours term) :
    other.chosenPhrase changed (term.mapWords words) =
      (context.chosenPhrase neighbours term).map (Option.map (Body.mapWords words)) := by
  unfold chosenPhrase
  rw [sameKey]
  cases context.phraseKey neighbours term with
  | error error => rfl
  | ok key => exact congrArg Except.ok (Term.phraseFor_mapWords words key term)

theorem segmentsText_map
    {change : Segment -> Segment}
    {neighbours changed : Neighbours}
    {content : List Segment}
    (alike : ∀ segment ∈ content,
      context.segmentText segment neighbours = other.segmentText (change segment) changed) :
    context.segmentsText content neighbours =
      other.segmentsText (content.map change) changed := by
  induction content with
  | nil => rfl
  | cons segment rest inductionHypothesis =>
      rw [List.map_cons, segmentsText_cons, segmentsText_cons]
      congr 1
      · exact alike segment List.mem_cons_self
      · apply inductionHypothesis
        intro later present
        exact alike later (List.mem_cons_of_mem segment present)

/-- Contexts that agree on all terms that are reached render the body alike. -/
theorem bodyText_mapWords
    {body : Body}
    (agrees : ∀ content term, body.Reaches context.Enters content term ->
      context.AgreesOn other words content term) :
    context.bodyText body = other.bodyText (body.mapWords words) := by
  induction body with
  | text content => rfl
  | tag kind => rfl
  | segments content inductionHypothesis =>
      rw [Body.mapWords_segments, bodyText_segments, bodyText_segments]
      apply segmentsText_map
      intro segment present
      cases segment with
      | gap | text content | tag kind => rfl
      | term term =>
          have agreement := agrees content term (.here present)
          rw [Segment.mapWords, segmentText, segmentText, termText_eq, termText_eq,
            agreement.choice, agreement.word]
          cases chosen : context.chosenPhrase (Segment.among content) term with
          | error error => rfl
          | ok choice =>
              cases choice with
              | none => rfl
              | some phrase =>
                  have inPhrase : phrase ∈ term.phrases := Enters.mem chosen
                  apply inductionHypothesis term present phrase inPhrase
                  intro inner nested reached
                  exact agrees inner nested (.within present chosen reached)

/-- Contexts in which all terms that are reached choose and read alike render a body alike. -/
theorem bodyText_congr
    {body : Body}
    (sameChoice : ∀ content term, body.Reaches context.Enters content term ->
      other.chosenPhrase (Segment.among content) term =
        context.chosenPhrase (Segment.among content) term)
    (sameWord : ∀ content term, body.Reaches context.Enters content term ->
      other.wordText (Segment.among content) term =
        context.wordText (Segment.among content) term) :
    context.bodyText body = other.bodyText body := by
  have keepsContent (content : List Segment) :
      content.map (Segment.mapWords .keep) = content := by
    apply Segment.mapWords_keep
    intro term _
    exact term.mapWords_keep_eq
  have keepsPhrase : Option.map (Body.mapWords .keep) = id := by
    funext phrase
    cases phrase with
    | none => rfl
    | some phrase =>
        apply congrArg some
        exact Body.mapWords_keep phrase
  have rewritten : context.bodyText body = other.bodyText (body.mapWords .keep) := by
    apply bodyText_mapWords
    intro content term reached
    refine { choice := ?_, word := ?_ }
    · rw [keepsContent, term.mapWords_keep_eq, keepsPhrase, sameChoice content term reached]
      cases context.chosenPhrase (Segment.among content) term <;> rfl
    · rw [keepsContent, term.mapWords_keep_eq, sameWord content term reached]
  rw [rewritten, Body.mapWords_keep]

end Context
end Concord
