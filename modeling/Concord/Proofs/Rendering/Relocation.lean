import Concord.Proofs.Rendering.Neighbourhood

/-!
# Joined bodies

Terms point at the segments of their own body by position.  When one body is
put after another, the positions of its terms move by the length of the first;
those inside its phrases count within the phrases and stay.  So moved, the two
bodies together render as the first followed by the second.
-/

namespace Concord

namespace Term

/-- The positions that a term points at. -/
def pointers (term : Term) : List Int :=
  term.target?.toList ++ term.follower?.toList

theorem mem_pointers {term : Term} {position : Int} :
    position ∈ term.pointers ↔
      term.target? = some position ∨ term.follower? = some position := by
  simp [pointers]

/-- Move the positions that a term points at; its phrases stay as they are. -/
def relocate (offset : Int) : Term -> Term
  | .noun ref => .noun ref
  | .modifier ref => .modifier { ref with
      target := ref.target.map (· + offset)
      follower := ref.follower.map (· + offset) }
  | .gender target fallback variants => .gender (target.map (· + offset)) fallback variants
  | .plural argument fallback variants => .plural argument fallback variants
  | .counter target => .counter (target.map (· + offset))
  | .bare kind => .bare kind

theorem phraseFor_relocate (offset : Int) (term : Term) (key : Option String) :
    (term.relocate offset).phraseFor key = term.phraseFor key := by
  cases term <;> rfl

theorem relocate_zero (term : Term) : term.relocate 0 = term := by
  cases term <;> simp [relocate]

end Term

namespace Segment

/-- Move the positions that a segment points at. -/
def relocate (offset : Int) : Segment -> Segment
  | .term content => .term (content.relocate offset)
  | .gap => .gap
  | .text content => .text content
  | .tag kind => .tag kind

theorem present?_relocate (offset : Int) (segment : Segment) :
    (segment.relocate offset).present? = segment.present?.map (relocate offset) := by
  cases segment <;> rfl

/-- In front of other segments, positions show what they showed before. -/
theorem among_append_left
    {left : List Segment}
    {position : Int}
    (inside : position < left.length)
    (right : List Segment) :
    among (left ++ right) position = among left position := by
  unfold among
  by_cases negative : position < 0
  · rw [if_pos negative, if_pos negative]
  · have insideNat : position.toNat < left.length := by omega
    rw [if_neg negative, if_neg negative, List.getElem?_append_left insideNat]

/-- Behind other segments, positions show what they showed that many positions before. -/
theorem among_append_right
    (left right : List Segment)
    {position : Int}
    (forward : 0 ≤ position) :
    among (left ++ right) (position + left.length) = among right position := by
  have notNegative : ¬ position < 0 := Int.not_lt.mpr forward
  have stillNotNegative : ¬ position + left.length < 0 := by omega
  have behind : left.length ≤ (position + left.length).toNat := by omega
  have difference : (position + left.length).toNat - left.length = position.toNat := by omega
  unfold among
  rw [if_neg notNegative, if_neg stillNotNegative, List.getElem?_append_right behind, difference]

/-- No term of some segments points behind them. -/
def PointInside (content : List Segment) : Prop :=
  ∀ term, Segment.term term ∈ content -> ∀ position ∈ term.pointers, position < content.length

/-- No term of some segments points at a negative position. -/
def PointForward (content : List Segment) : Prop :=
  ∀ term, Segment.term term ∈ content -> ∀ position ∈ term.pointers, 0 ≤ position

end Segment

namespace Context

variable {context : Context} {neighbours changed : Neighbours} {offset : Int}

/-- A segment looks to other terms as it did before its own positions were moved. -/
theorem looksAlike_relocate (context : Context) (offset : Int) (segment : Segment) :
    context.LooksAlike context segment (segment.relocate offset) := by
  cases segment with
  | gap | text content | tag kind => exact ⟨⟨rfl, rfl⟩, rfl⟩
  | term term => cases term <;> exact ⟨⟨rfl, rfl⟩, rfl⟩

/-- Positions that are moved together stay the same or different. -/
theorem map_add_eq_map_add_iff (left right : Option Int) :
    left.map (· + offset) = right.map (· + offset) ↔ left = right :=
  Option.map_inj_right fun _ _ sum => (Int.add_left_inj offset).mp sum

/-- A position of a term shows something alike from the new place of the term. -/
theorem shownAlike_pointedAt
    {term : Term}
    (shown : ∀ position ∈ term.pointers, Segment.ShownAlike (context.LooksAlike context)
      (neighbours position) (changed (position + offset)))
    (position : Option Int)
    (points : ∀ index, position = some index -> index ∈ term.pointers) :
    Segment.ShownAlike (context.LooksAlike context)
      (Segment.pointedAt neighbours position)
      (Segment.pointedAt changed (position.map (· + offset))) := by
  cases position with
  | none => exact .nothing
  | some index => exact shown index (points index rfl)

/-- A term reads alike in its new place if its moved positions show it the same. -/
theorem readsAlike_relocate
    {term : Term}
    (shown : ∀ position ∈ term.pointers, Segment.ShownAlike (context.LooksAlike context)
      (neighbours position) (changed (position + offset))) :
    context.ReadsAlike context neighbours changed term (term.relocate offset) := by
  cases term with
  | noun ref | plural argument fallback variants | bare kind => exact ⟨rfl, rfl⟩
  | modifier ref =>
      have target := shownAlike_pointedAt shown ref.target fun _ points =>
        Term.mem_pointers.mpr (.inl points)
      have follower := shownAlike_pointedAt shown ref.follower fun _ points =>
        Term.mem_pointers.mpr (.inr points)
      have asksAlike : context.AskAlike context neighbours changed ref { ref with
          target := ref.target.map (· + offset)
          follower := ref.follower.map (· + offset) } := {
        kind := rfl
        form := rfl
        target := target.mono fun _ _ alike => alike.toSameTarget
        followedByTarget := map_add_eq_map_add_iff ref.follower ref.target
        follower := fun _ _ _ => follower.mono fun _ _ alike => alike.word }
      exact ⟨rfl, modifierText_eq asksAlike rfl rfl⟩
  | gender target fallback variants =>
      have shownTarget := shownAlike_pointedAt shown target fun _ points =>
        Term.mem_pointers.mpr (.inl points)
      exact ⟨genderKey_eq (shownTarget.mono fun _ _ alike => alike.toSameTarget), rfl⟩
  | counter target =>
      have shownTarget := shownAlike_pointedAt shown target fun _ points =>
        Term.mem_pointers.mpr (.inl points)
      have sameGrammar : context.grammar = context.grammar := rfl
      have sameText := counterText_eq sameGrammar
        (shownTarget.mono fun _ _ alike => alike.toSameTarget)
      exact ⟨rfl, congrArg Rendering.lift sameText⟩

/-- A term has the same text in its new place if its moved positions show it the same. -/
theorem termText_relocate
    {term : Term}
    (shown : ∀ position ∈ term.pointers, Segment.ShownAlike (context.LooksAlike context)
      (neighbours position) (changed (position + offset))) :
    context.termText term neighbours = context.termText (term.relocate offset) changed := by
  have alike := readsAlike_relocate shown
  have samePhrase : (term.relocate offset).phraseFor = term.phraseFor :=
    funext (term.phraseFor_relocate offset)
  rw [termText_eq, termText_eq, chosenPhrase, chosenPhrase, alike.key, alike.word, samePhrase]

/-- A term that points at none of the segments that follow has the same text without those. -/
theorem termText_append_left
    {left : List Segment}
    {term : Term}
    (inside : ∀ position ∈ term.pointers, position < left.length)
    (right : List Segment) :
    context.termText term (Segment.among left) =
      context.termText term (Segment.among (left ++ right)) := by
  -- The term is moved by nothing; what changes are the segments behind those it points at.
  have unmoved : context.termText term (Segment.among left) =
      context.termText (term.relocate 0) (Segment.among (left ++ right)) := by
    apply termText_relocate
    intro position points
    rw [Int.add_zero, Segment.among_append_left (inside position points)]
    exact Segment.shownAlike_self (some position) fun _ _ => ⟨⟨rfl, rfl⟩, rfl⟩
  rwa [term.relocate_zero] at unmoved

/-- Segments whose terms point at none that follow render as they did without those. -/
theorem segmentsText_append_left
    {left : List Segment}
    (inside : Segment.PointInside left)
    (right : List Segment) :
    context.segmentsText left (Segment.among left) =
      context.segmentsText left (Segment.among (left ++ right)) := by
  have mapped : context.segmentsText left (Segment.among left) =
      context.segmentsText (left.map id) (Segment.among (left ++ right)) := by
    apply segmentsText_map
    intro segment present
    cases segment with
    | gap | text content | tag kind => rfl
    | term term => exact termText_append_left (inside term present) right
  rwa [List.map_id] at mapped

/-- Segments that are moved behind others render as they did by themselves. -/
theorem segmentsText_append_right
    (left : List Segment)
    {right : List Segment}
    (forward : Segment.PointForward right) :
    context.segmentsText right (Segment.among right) =
      context.segmentsText (right.map (Segment.relocate left.length))
        (Segment.among (left ++ right.map (Segment.relocate left.length))) := by
  apply segmentsText_map
  intro segment present
  cases segment with
  | gap | text content | tag kind => rfl
  | term term =>
      apply termText_relocate
      intro position points
      rw [Segment.among_append_right left _ (forward term present position points)]
      exact Segment.shownAlike_of_map (some position)
        (Segment.among_map (Segment.present?_relocate left.length) right position)
        fun segment _ => looksAlike_relocate context left.length segment

/--
A body renders as two bodies one after the other if it consists of the segments
of the first, none of which points behind them, and those of the second with
their positions moved behind the first.
-/
theorem bodyText_append_relocate
    (context : Context)
    {left right : List Segment}
    (inside : Segment.PointInside left)
    (forward : Segment.PointForward right) :
    context.bodyText (.segments (left ++ right.map (Segment.relocate left.length))) =
      (context.bodyText (.segments left)).append (context.bodyText (.segments right)) := by
  rw [bodyText_segments, bodyText_segments, bodyText_segments, segmentsText_append,
    ← segmentsText_append_left inside, ← segmentsText_append_right left forward]

/-- An English context that knows one noun, which the caller names, and the article. -/
def oneApple : Context where
  catalog := {
    tables := [
      (.noun, [("apple", ⟨some "apple", [("s", "Apple")], some "v", .noun (some "n") none⟩)]),
      (.article, [("a", ⟨some "a", [("0-c", "A"), ("0-v", "An")], none, .modifier⟩)])]
    labels := [] }
  grammar := .ofFamily .english (.text "en") none none
  nouns := .list [.text "apple"]
  arguments := .null

/-- An article with its noun; the word after the article is given by no position of the body. -/
def namedApple : List Segment := [
  .term (.modifier ⟨.article, some "a", some "0-", true, some 2, some (-1)⟩),
  .text " ",
  .term (.noun ⟨some "apple", some "s", false, none⟩)]

/-- An article with its noun, and a phrase for the gender of the noun with positions of its own. -/
def givenApple : List Segment := [
  .text ": ",
  .term (.modifier ⟨.article, some "a", some "0-", false, some 3, some 3⟩),
  .text " ",
  .term (.noun ⟨none, some "s", false, some 0⟩),
  .term (.gender (some 3) (.text "") [("n", .segments [
    .text ", ",
    .term (.modifier ⟨.article, some "a", some "0-", false, some 3, some 3⟩),
    .text " ",
    .term (.noun ⟨some "APPLE", some "s", true, none⟩)])])]

theorem bodyText_append_relocate_apples :
    Segment.PointInside namedApple ∧
      Segment.PointForward givenApple ∧
      (oneApple.bodyText (.segments
        (namedApple ++ givenApple.map (Segment.relocate namedApple.length)))).outcome =
          .ok "An apple: an apple, an Apple" := by
  have inside : Segment.PointInside namedApple := by
    have bounded : ∀ position : Int, 2 = position ∨ -1 = position -> position < 3 := by omega
    simpa [Segment.PointInside, namedApple, Term.mem_pointers, Term.target?, Term.follower?]
      using bounded
  have forward : Segment.PointForward givenApple := by
    simp [Segment.PointForward, givenApple, Term.mem_pointers, Term.target?, Term.follower?]
  refine ⟨inside, forward, ?_⟩
  rw [bodyText_append_relocate oneApple inside forward]
  decide +kernel

end Context
end Concord
