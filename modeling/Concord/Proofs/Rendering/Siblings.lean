import Concord.Proofs.Rendering.Relocation

/-!
# What a term depends on among its siblings

Of the segments around it a term uses only those that it points at.  Among
other segments it has the same text as soon as these positions show it the
same, and a phrase that it chooses is rendered among the segments of the phrase
and not among those of the term.  A segment can therefore be exchanged for
anything without a change to the segments that do not point at it.
-/

namespace Concord

/-- Two surroundings show a term the same segments at the positions that it points at. -/
structure Term.SeesSame (term : Term) (neighbours changed : Neighbours) : Prop where
  /-- The segment that it points at as its noun is the same. -/
  target : Segment.pointedAt changed term.target? = Segment.pointedAt neighbours term.target?
  /-- The segment that it points at as the next word is the same. -/
  follower : Segment.pointedAt changed term.follower? = Segment.pointedAt neighbours term.follower?

namespace Segment

/-- The positions that a segment points at; only terms point. -/
def pointers : Segment -> List Int
  | .term content => content.pointers
  | _ => []

/-- Every position but the one that is exchanged shows what it showed before. -/
theorem among_set_of_ne
    {position : Int}
    {replaced : Nat}
    (elsewhere : position ≠ replaced)
    (content : List Segment)
    (replacement : Segment) :
    among (content.set replaced replacement) position = among content position := by
  unfold among
  split
  · rfl
  · have different : replaced ≠ position.toNat := by omega
    rw [List.getElem?_set_ne different]

/-- A term that does not point at the position that is exchanged sees the same as before. -/
theorem seesSame_set
    {term : Term}
    {replaced : Nat}
    (ignored : (replaced : Int) ∉ term.pointers)
    (content : List Segment)
    (replacement : Segment) :
    term.SeesSame (among content) (among (content.set replaced replacement)) := by
  have shown (position : Option Int) (points : ∀ index, position = some index ->
      index ∈ term.pointers) :
      pointedAt (among (content.set replaced replacement)) position =
        pointedAt (among content) position := by
    cases position with
    | none => rfl
    | some index =>
        have elsewhere : index ≠ replaced := fun same => ignored (same ▸ points index rfl)
        exact among_set_of_ne elsewhere content replacement
  exact {
    target := shown term.target? fun _ points => Term.mem_pointers.mpr (.inl points)
    follower := shown term.follower? fun _ points => Term.mem_pointers.mpr (.inr points) }

end Segment

namespace Context

variable {context : Context} {term : Term} {neighbours changed : Neighbours}

/-- A term that sees the same chooses by the same key. -/
theorem phraseKey_of_seesSame (same : term.SeesSame neighbours changed) :
    context.phraseKey changed term = context.phraseKey neighbours term := by
  cases term with
  | gender target fallback variants =>
      have target := same.target
      rw [Term.target?] at target
      rw [phraseKey, phraseKey, genderKey, genderKey, nounAt, nounAt, target]
  | noun ref | modifier ref | plural argument fallback variants | counter target
  | bare kind => rfl

/-- A term that sees the same has the same text of its own, asked for in the same way. -/
theorem wordText_of_seesSame (same : term.SeesSame neighbours changed) :
    context.wordText changed term = context.wordText neighbours term := by
  have target := same.target
  cases term with
  | modifier ref =>
      have follower := same.follower
      rw [Term.target?] at target
      rw [Term.follower?] at follower
      simp only [wordText, modifierText, requestFor, followerOf, target, follower]
  | counter position =>
      rw [Term.target?] at target
      rw [wordText, wordText, counterText, counterText, nounAt, nounAt, target]
  | noun ref | gender target fallback variants | plural argument fallback variants
  | bare kind => rfl

/-- A term that sees the same renders the same. -/
theorem termText_of_seesSame (same : term.SeesSame neighbours changed) :
    context.termText term changed = context.termText term neighbours := by
  rw [termText_eq, termText_eq, chosenPhrase, chosenPhrase, phraseKey_of_seesSame same,
    wordText_of_seesSame same]

/-- A term with phrases renders one of them as it renders by itself, unless it cannot choose. -/
theorem termText_of_phrases
    (context : Context)
    (neighbours : Neighbours)
    (hasPhrases : term.phrases ≠ []) :
    (∃ error, context.termText term neighbours = .fail error) ∨
      ∃ phrase ∈ term.phrases, context.termText term neighbours = context.bodyText phrase := by
  rw [termText_eq, chosenPhrase]
  cases context.phraseKey neighbours term with
  | error error => exact .inl ⟨error, rfl⟩
  | ok key =>
      cases chosen : term.phraseFor key with
      | some phrase =>
          refine .inr ⟨phrase, Term.phraseFor_mem chosen, ?_⟩
          simp only [Except.map, chosen, Rendering.lift_ok, Rendering.pure_bind]
      | none =>
          cases term with
          | gender target fallback variants | plural argument fallback variants => cases chosen
          | noun ref | modifier ref | counter target | bare kind => exact absurd rfl hasPhrases

/-- The texts of some segments, each rendered among all of them. -/
def segmentTexts (context : Context) (content : List Segment) : List (Rendering String) :=
  content.map fun segment => context.segmentText segment (Segment.among content)

/-- Segments render as their texts one after the other. -/
theorem segmentsText_eq_foldr
    (context : Context)
    (content : List Segment)
    (neighbours : Neighbours) :
    context.segmentsText content neighbours =
      (content.map fun segment => context.segmentText segment neighbours).foldr
        Rendering.append (.pure "") := by
  induction content with
  | nil => rfl
  | cons segment rest inductionHypothesis =>
      rw [segmentsText_cons, inductionHypothesis, List.map_cons, List.foldr_cons]

/-- A segment that does not point at the position that is exchanged keeps its text. -/
theorem segmentText_set
    {segment : Segment}
    {replaced : Nat}
    (ignored : (replaced : Int) ∉ segment.pointers)
    (context : Context)
    (content : List Segment)
    (replacement : Segment) :
    context.segmentText segment (Segment.among (content.set replaced replacement)) =
      context.segmentText segment (Segment.among content) := by
  cases segment with
  | gap | text content | tag kind => rfl
  | term term => exact termText_of_seesSame (Segment.seesSame_set ignored content replacement)

/-- The text at another position stays when a segment is exchanged that it does not point at. -/
theorem getElem?_segmentTexts_set
    {content : List Segment}
    {index replaced : Nat}
    (elsewhere : index ≠ replaced)
    (ignored : ∀ segment, content[index]? = some segment ->
      (replaced : Int) ∉ segment.pointers)
    (context : Context)
    (replacement : Segment) :
    (context.segmentTexts (content.set replaced replacement))[index]? =
      (context.segmentTexts content)[index]? := by
  rw [segmentTexts, segmentTexts, List.getElem?_map, List.getElem?_map,
    List.getElem?_set_ne elsewhere.symm]
  cases present : content[index]? with
  | none => rfl
  | some segment =>
      exact congrArg some (segmentText_set (ignored segment present) context content replacement)

/--
A term renders alike wherever the positions that it points at show it the same.
A phrase that it chooses renders as by itself, each of its segments among the
segments of the phrase.  So a segment that is exchanged for any other changes
no text but its own and those of the segments that point at it.
-/
theorem siblings_matter_where_pointed_at (context : Context) :
    (∀ (term : Term) (neighbours changed : Neighbours), term.SeesSame neighbours changed ->
      context.termText term changed = context.termText term neighbours) ∧
    (∀ (term : Term) (neighbours : Neighbours), term.phrases ≠ [] ->
      (∃ error, context.termText term neighbours = .fail error) ∨
        ∃ phrase ∈ term.phrases, context.termText term neighbours = context.bodyText phrase) ∧
    (∀ content : List Segment, context.bodyText (.segments content) =
      (context.segmentTexts content).foldr Rendering.append (.pure "")) ∧
    ∀ (content : List Segment) (index replaced : Nat) (replacement : Segment),
      index ≠ replaced ->
      (∀ segment, content[index]? = some segment -> (replaced : Int) ∉ segment.pointers) ->
      (context.segmentTexts (content.set replaced replacement))[index]? =
        (context.segmentTexts content)[index]? := by
  refine ⟨fun _ _ _ same => termText_of_seesSame same, ?_, ?_, ?_⟩
  · intro term neighbours hasPhrases
    exact termText_of_phrases context neighbours hasPhrases
  · intro content
    exact segmentsText_eq_foldr context content (Segment.among content)
  · intro content index replaced replacement elsewhere ignored
    exact getElem?_segmentTexts_set elsewhere ignored context replacement

/-- The article of the apple that the caller names. -/
def givenArticle : Term :=
  .modifier ⟨.article, some "a", some "0-", false, some 3, some 3⟩

/-- The apple that the caller names at the position where the article expects it, by itself. -/
def loneApple : List Segment :=
  [.gap, .gap, .gap, .term (.noun ⟨none, some "s", false, some 0⟩)]

/-- A phrase for the gender of the apple, with an article and a noun of its own. -/
def genderedApple : Term :=
  .gender (some 3) (.text "") [("n", .segments [
    .text ", ",
    .term (.modifier ⟨.article, some "a", some "0-", false, some 3, some 3⟩),
    .text " ",
    .term (.noun ⟨some "APPLE", some "s", true, none⟩)])]

/-- The article needs only its apple; the phrase stays when an unknown noun stands before it. -/
theorem siblings_matter_where_pointed_at_apple :
    givenArticle.SeesSame (Segment.among givenApple) (Segment.among loneApple) ∧
      (oneApple.termText givenArticle (Segment.among loneApple)).outcome = .ok "an" ∧
      (∃ phrase ∈ genderedApple.phrases,
        oneApple.termText genderedApple (Segment.among givenApple) = oneApple.bodyText phrase) ∧
      (oneApple.segmentTexts (givenApple.set 2
        (.term (.noun ⟨some "pear", some "s", false, none⟩))))[4]?.map Rendering.outcome =
          some (.ok ", an Apple") := by
  obtain ⟨placed, phrased, -, exchanged⟩ := siblings_matter_where_pointed_at oneApple
  have same : givenArticle.SeesSame (Segment.among givenApple) (Segment.among loneApple) :=
    ⟨rfl, rfl⟩
  refine ⟨same, ?_, ?_, ?_⟩
  · rw [placed _ _ _ same]
    decide +kernel
  · refine (phrased genderedApple (Segment.among givenApple) (by simp [genderedApple,
      Term.phrases])).resolve_left ?_
    rintro ⟨error, fails⟩
    have succeeds : (oneApple.termText genderedApple (Segment.among givenApple)).outcome =
        .ok ", an Apple" := by decide +kernel
    rw [fails] at succeeds
    cases succeeds
  · have present : givenApple[4]? = some (.term genderedApple) := rfl
    rw [exchanged givenApple 4 2 _ (by decide)]
    · decide +kernel
    · rintro segment found
      rw [present] at found
      cases found
      decide

end Context
end Concord
