import Concord.Term.Basic

/-!
# Terms inside bodies

A gender or plural term holds bodies of its own, the phrases that it chooses
between.  A term lies in a body if it is one of its segments or lies in a
phrase of one of them.  Proofs about bodies follow this nesting: a fact holds
of a list of segments if it holds of all phrases of its terms.
-/

namespace Concord

namespace Term

/-- The bodies that a term chooses between. -/
def phrases : Term -> List Body
  | .gender _ fallback variants => fallback :: variants.map Prod.snd
  | .plural _ fallback variants => fallback :: variants.map Prod.snd
  | _ => []

/-- The position of the noun that a term agrees with. -/
def target? : Term -> Option Int
  | .modifier ref => ref.target
  | .gender target _ _ => target
  | .counter target => target
  | _ => none

/-- The position of the word after a modifier. -/
def follower? : Term -> Option Int
  | .modifier ref => ref.follower
  | _ => none

theorem sizeOf_variant_lt
    {variants : List (String × Body)}
    {phrase : Body}
    (present : phrase ∈ variants.map Prod.snd) :
    sizeOf phrase < sizeOf variants := by
  obtain ⟨variant, member, rfl⟩ := List.mem_map.mp present
  have smaller := List.sizeOf_lt_of_mem member
  obtain ⟨key, body⟩ := variant
  rw [Prod.mk.sizeOf_spec] at smaller
  dsimp only
  omega

theorem sizeOf_phrase_lt
    {term : Term}
    {phrase : Body}
    (present : phrase ∈ term.phrases) :
    sizeOf phrase < sizeOf term := by
  cases term with
  | gender target fallback variants | plural argument fallback variants =>
      rw [phrases, List.mem_cons] at present
      rcases present with rfl | inVariants
      · simp only [gender.sizeOf_spec, plural.sizeOf_spec]
        omega
      · have smaller := sizeOf_variant_lt inVariants
        simp only [gender.sizeOf_spec, plural.sizeOf_spec]
        omega
  | noun ref | modifier ref | counter target | bare kind => simp [phrases] at present

end Term

namespace Body

/-- Induction along the nesting of phrases. -/
@[elab_as_elim, induction_eliminator]
theorem nesting {motive : Body -> Prop}
    (text : ∀ content, motive (.text content))
    (tag : ∀ kind, motive (.tag kind))
    (segments : ∀ content,
      (∀ term, Segment.term term ∈ content -> ∀ phrase ∈ term.phrases, motive phrase) ->
        motive (.segments content)) :
    ∀ body, motive body
  | .text content => text content
  | .tag kind => tag kind
  | .segments content =>
      segments content fun term _present phrase _inTerm =>
        nesting text tag segments phrase
termination_by body => sizeOf body
decreasing_by
  have smallerPhrase := Term.sizeOf_phrase_lt _inTerm
  have smallerSegment := List.sizeOf_lt_of_mem _present
  rw [Segment.term.sizeOf_spec] at smallerSegment
  rw [Body.segments.sizeOf_spec]
  omega

/--
A term is reached in a body, by entering some of the phrases on the way, as one
of the segments `content` that it stands among.
-/
inductive Reaches (enters : List Segment -> Term -> Body -> Prop) :
    Body -> List Segment -> Term -> Prop
  | here {content : List Segment} {term : Term}
      (present : Segment.term term ∈ content) :
      Reaches enters (.segments content) content term
  | within {content inner : List Segment} {outer term : Term} {phrase : Body}
      (present : Segment.term outer ∈ content)
      (entered : enters content outer phrase)
      (reached : Reaches enters phrase inner term) :
      Reaches enters (.segments content) inner term

/-- A term lies in a body at some depth, as one of the segments `content` around it. -/
abbrev Holds : Body -> List Segment -> Term -> Prop :=
  Reaches fun _ outer phrase => phrase ∈ outer.phrases

variable {enters : List Segment -> Term -> Body -> Prop}

@[simp] theorem not_reaches_text (written : String) (content : List Segment) (term : Term) :
    ¬ Reaches enters (.text written) content term :=
  nofun

@[simp] theorem not_reaches_tag (kind : TermKind) (content : List Segment) (term : Term) :
    ¬ Reaches enters (.tag kind) content term :=
  nofun

/-- What is reached from some segments stands among them or in a phrase of one of them. -/
theorem reaches_segments {content inner : List Segment} {term : Term} :
    Reaches enters (.segments content) inner term ↔
      (inner = content ∧ Segment.term term ∈ content) ∨
        ∃ outer phrase, Segment.term outer ∈ content ∧ enters content outer phrase ∧
          Reaches enters phrase inner term := by
  constructor
  · rintro (present | ⟨present, entered, reached⟩)
    · exact .inl ⟨rfl, present⟩
    · exact .inr ⟨_, _, present, entered, reached⟩
  · rintro (⟨rfl, present⟩ | ⟨outer, phrase, present, entered, reached⟩)
    · exact .here present
    · exact .within present entered reached

/-- What stands beside a term that is reached is reached too. -/
theorem Reaches.sibling
    {body : Body}
    {content : List Segment}
    {term other : Term}
    (reached : Reaches enters body content term)
    (present : Segment.term other ∈ content) :
    Reaches enters body content other := by
  induction reached with
  | here _ => exact .here present
  | within outerPresent entered _ inductionHypothesis =>
      exact .within outerPresent entered (inductionHypothesis present)

/-- A term stands among the segments that it is reached with. -/
theorem Reaches.mem
    {body : Body}
    {content : List Segment}
    {term : Term}
    (reached : Reaches enters body content term) :
    Segment.term term ∈ content := by
  induction reached with
  | here present => exact present
  | within _ _ _ inductionHypothesis => exact inductionHypothesis

/-- A term that is reached by entering fewer phrases is reached by entering more. -/
theorem Reaches.mono
    {more : List Segment -> Term -> Body -> Prop}
    (weaker : ∀ content term phrase, enters content term phrase -> more content term phrase)
    {body : Body}
    {content : List Segment}
    {term : Term}
    (reached : Reaches enters body content term) :
    Reaches more body content term := by
  induction reached with
  | here present => exact .here present
  | within present entered _ inductionHypothesis =>
      exact .within present (weaker _ _ _ entered) inductionHypothesis

end Body

namespace Segment

/-- Pointing among the segments of a list always finds a segment or none. -/
theorem pointedAt_ok (content : List Segment) (position : Option Int) :
    ∃ segment, pointedAt (among content) position = .ok segment := by
  cases position with
  | none => exact ⟨none, rfl⟩
  | some index => exact ⟨_, rfl⟩

/-- A segment that is pointed at is one of the segments around. -/
theorem mem_of_pointedAt
    {content : List Segment}
    {position : Option Int}
    {segment : Segment}
    (pointed : pointedAt (among content) position = .ok (some segment)) :
    segment ∈ content := by
  cases position with
  | none => cases pointed
  | some index =>
      rw [pointedAt, among, Except.ok.injEq] at pointed
      split at pointed
      · cases pointed
      · obtain ⟨found, atIndex, present⟩ := Option.bind_eq_some_iff.mp pointed
        obtain rfl : found = segment := by
          cases found <;> simp_all [present?]
        exact List.mem_of_getElem? atIndex

end Segment
end Concord
