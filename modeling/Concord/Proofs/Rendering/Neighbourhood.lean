import Concord.Proofs.Rendering.Congruence

/-!
# What a term sees of its body

A term looks at its body only through the positions that it points at: it takes
what stands there for a noun, for the word after a modifier, or for something
that asks for a form.  Where two bodies show a term the same nouns, words and
forms, it chooses by the same key and has the same text.
-/

namespace Concord

/-- Two look-ups show segments that are related, or no segment both. -/
inductive Segment.ShownAlike (related : Segment -> Segment -> Prop) :
    Except NumberError (Option Segment) -> Except NumberError (Option Segment) -> Prop
  | nothing : ShownAlike related (.ok none) (.ok none)
  | something {segment changed : Segment} (alike : related segment changed) :
      ShownAlike related (.ok (some segment)) (.ok (some changed))

namespace Segment

variable {related : Segment -> Segment -> Prop} {content : List Segment}

theorem ShownAlike.mono
    {weaker : Segment -> Segment -> Prop}
    {found other : Except NumberError (Option Segment)}
    (implied : ∀ segment changed, related segment changed -> weaker segment changed)
    (shown : ShownAlike related found other) :
    ShownAlike weaker found other := by
  cases shown with
  | nothing => exact .nothing
  | something alike => exact .something (implied _ _ alike)

/-- What is looked up among changed segments is related if the changed segment is. -/
theorem shownAlike_of_map
    {change : Segment -> Segment}
    {found : Except NumberError (Option Segment)}
    (position : Option Int)
    (moved : found = (pointedAt (among content) position).map (Option.map change))
    (alike : ∀ segment, pointedAt (among content) position = .ok (some segment) ->
      related segment (change segment)) :
    ShownAlike related (pointedAt (among content) position) found := by
  obtain ⟨segment, pointed⟩ := pointedAt_ok content position
  rw [moved, pointed]
  cases segment with
  | none => exact .nothing
  | some segment => exact .something (alike segment pointed)

/-- What is looked up at one position is related to itself if every segment there is. -/
theorem shownAlike_self
    (position : Option Int)
    (alike : ∀ segment, pointedAt (among content) position = .ok (some segment) ->
      related segment segment) :
    ShownAlike related (pointedAt (among content) position)
      (pointedAt (among content) position) := by
  refine shownAlike_of_map position ?_ alike
  obtain ⟨segment, pointed⟩ := pointedAt_ok content position
  rw [pointed]
  cases segment <;> rfl

end Segment

/-- A rewriting of words that changes their names and nothing else. -/
structure WordMap.ChangesNames (words : WordMap) : Prop where
  /-- A noun keeps all but its name. -/
  noun : ∀ ref, ∃ name, words.noun ref = { ref with name := name }
  /-- A modifier keeps all but its name. -/
  modifier : ∀ ref, ∃ name, words.modifier ref = { ref with name := name }

theorem WordMap.keep_changesNames : WordMap.keep.ChangesNames where
  noun ref := ⟨ref.name, rfl⟩
  modifier ref := ⟨ref.name, rfl⟩

theorem Term.form?_mapWords
    {words : WordMap}
    (names : words.ChangesNames)
    (term : Term) :
    (term.mapWords words).form? = term.form? := by
  cases term with
  | noun ref =>
      obtain ⟨name, renamed⟩ := names.noun ref
      rw [mapWords, renamed]
      rfl
  | modifier ref =>
      obtain ⟨name, renamed⟩ := names.modifier ref
      rw [mapWords, renamed]
      rfl
  | gender target fallback variants | plural argument fallback variants | counter target
  | bare kind => rfl

namespace Context

/-- Two segments stand for the same noun, each in its context, and ask for the same form. -/
structure SameTarget (context other : Context) (segment changed : Segment) : Prop where
  /-- They stand for the same noun. -/
  noun : other.nounOf changed = context.nounOf segment
  /-- They ask for the same form. -/
  form : formOf changed = formOf segment

/-- Two segments are the same word after a modifier, each in its context. -/
def SameFollower (context other : Context) (segment changed : Segment) : Prop :=
  other.wordOf changed = context.wordOf segment

/-- Two segments, each in its context, are the same to all terms that point at them. -/
structure LooksAlike (context other : Context) (segment changed : Segment) : Prop
    extends SameTarget context other segment changed where
  /-- They stand for the same word after a modifier. -/
  word : context.SameFollower other segment changed

variable {context other : Context} {neighbours changed : Neighbours}

theorem nounAt_eq
    {position moved : Option Int}
    (shown : Segment.ShownAlike (context.SameTarget other)
      (Segment.pointedAt neighbours position) (Segment.pointedAt changed moved)) :
    other.nounAt changed moved = context.nounAt neighbours position := by
  unfold nounAt
  generalize Segment.pointedAt neighbours position = found at shown ⊢
  generalize Segment.pointedAt changed moved = foundThere at shown ⊢
  cases shown with
  | nothing => rfl
  | something alike => exact alike.noun

theorem genderKey_eq
    {target moved : Option Int}
    (shown : Segment.ShownAlike (context.SameTarget other)
      (Segment.pointedAt neighbours target) (Segment.pointedAt changed moved)) :
    other.genderKey changed moved = context.genderKey neighbours target := by
  rw [genderKey, genderKey, nounAt_eq shown]

theorem counterText_eq
    {target moved : Option Int}
    (sameGrammar : other.grammar = context.grammar)
    (shown : Segment.ShownAlike (context.SameTarget other)
      (Segment.pointedAt neighbours target) (Segment.pointedAt changed moved)) :
    other.counterText changed moved = context.counterText neighbours target := by
  have sameWord : other.counterWord = context.counterWord := by
    funext noun
    simp only [counterWord, sameGrammar]
  rw [counterText, counterText, nounAt_eq shown, sameWord]

/--
Two modifiers ask alike: they are of one kind and form, and what they point at
as their noun and, if there is one, as the word after them is the same.
-/
structure AskAlike (context other : Context) (neighbours changed : Neighbours)
    (ref altered : ModifierTerm) : Prop where
  /-- They are of one kind. -/
  kind : altered.kind = ref.kind
  /-- They ask for the same form. -/
  form : altered.form = ref.form
  /-- What they point at as their noun stands for the same noun. -/
  target : Segment.ShownAlike (context.SameTarget other)
    (Segment.pointedAt neighbours ref.target) (Segment.pointedAt changed altered.target)
  /-- Both point at their noun as the word after them, or neither does. -/
  followedByTarget : altered.follower = altered.target ↔ ref.follower = ref.target
  /-- Else what they point at as the word after them stands for the same word. -/
  follower : ∀ segment, Segment.pointedAt neighbours ref.target = .ok (some segment) ->
    ref.follower ≠ ref.target -> Segment.ShownAlike (context.SameFollower other)
      (Segment.pointedAt neighbours ref.follower) (Segment.pointedAt changed altered.follower)

section

variable
  {ref altered : ModifierTerm}
  (alike : context.AskAlike other neighbours changed ref altered)

include alike

theorem followerOf_eq
    {segment : Segment}
    (pointed : Segment.pointedAt neighbours ref.target = .ok (some segment))
    (noun : Option Lexeme) :
    other.followerOf changed altered noun = context.followerOf neighbours ref noun := by
  unfold followerOf
  by_cases itsNoun : ref.follower = ref.target
  · rw [if_pos itsNoun, if_pos (alike.followedByTarget.mpr itsNoun)]
  · rw [if_neg itsNoun, if_neg (mt alike.followedByTarget.mp itsNoun)]
    have shown := alike.follower segment pointed itsNoun
    generalize Segment.pointedAt neighbours ref.follower = found at shown ⊢
    generalize Segment.pointedAt changed altered.follower = foundThere at shown ⊢
    cases shown with
    | nothing => rfl
    | something sameWord => exact sameWord

theorem requestFor_eq
    (sameGrammar : other.grammar = context.grammar)
    {segment changedSegment : Segment}
    (pointed : Segment.pointedAt neighbours ref.target = .ok (some segment))
    (sameTarget : context.SameTarget other segment changedSegment) :
    other.requestFor changed altered changedSegment =
      context.requestFor neighbours ref segment := by
  simp only [requestFor, sameTarget.noun, sameTarget.form, followerOf_eq alike pointed, alike.kind,
    alike.form, sameGrammar]

/-- Modifiers that ask alike and have the same words have the same text. -/
theorem modifierText_eq
    (sameGrammar : other.grammar = context.grammar)
    (sameWord : other.modifierWord altered = context.modifierWord ref) :
    other.modifierText changed altered = context.modifierText neighbours ref := by
  unfold modifierText
  have shown := alike.target
  generalize pointed : Segment.pointedAt neighbours ref.target = found at shown ⊢
  generalize Segment.pointedAt changed altered.target = foundThere at shown ⊢
  cases shown with
  | nothing => rfl
  | something sameTarget =>
      have sameRequest := requestFor_eq alike sameGrammar pointed sameTarget
      simp only [Rendering.lift_ok, Rendering.pure_bind, sameRequest, sameWord]

end

/-- Two terms, each in its place, choose by the same key and have the same text of their own. -/
structure ReadsAlike (context other : Context) (neighbours changed : Neighbours)
    (term altered : Term) : Prop where
  /-- They choose among their variants by the same key. -/
  key : other.phraseKey changed altered = context.phraseKey neighbours term
  /-- They have the same text of their own. -/
  word : other.wordText changed altered = context.wordText neighbours term

/-! ### Rewritten words -/

/-- What a term takes from its context by itself is the same after its words are rewritten. -/
def SameByItself (context other : Context) (words : WordMap) : Term -> Prop
  | .noun ref => other.nounText (words.noun ref) = context.nounText ref
  | .modifier ref =>
      (∃ name capitalized,
        words.modifier ref = { ref with name := name, capitalized := capitalized }) ∧
        other.modifierWord (words.modifier ref) = context.modifierWord ref
  | .plural argument _ variants =>
      other.pluralKey argument (hasVariant PluralCategory.zero.name variants) =
        context.pluralKey argument (hasVariant PluralCategory.zero.name variants)
  | .gender .. | .counter _ | .bare _ => True

/--
Rewriting words changes nothing that a term sees in its context: neither what it
takes from there by itself nor what it takes the segments for that it points at.
-/
structure SeesAlike (context other : Context) (words : WordMap) (content : List Segment)
    (term : Term) : Prop where
  /-- What the term takes from its context by itself is the same. -/
  byItself : context.SameByItself other words term
  /-- The segment that it points at as its noun is the same to it. -/
  target : ∀ segment,
    Segment.pointedAt (Segment.among content) term.target? = .ok (some segment) ->
      context.SameTarget other segment (segment.mapWords words)
  /-- The segment that it points at as the next word is the same to it. -/
  follower : ∀ target segment,
    Segment.pointedAt (Segment.among content) term.target? = .ok (some target) ->
      term.follower? ≠ term.target? ->
        Segment.pointedAt (Segment.among content) term.follower? = .ok (some segment) ->
          context.SameFollower other segment (segment.mapWords words)

/-- A term sees alike if all segments around it look alike. -/
theorem seesAlike_of_looksAlike
    {words : WordMap}
    {content : List Segment}
    {term : Term}
    (byItself : context.SameByItself other words term)
    (looks : ∀ segment ∈ content, context.LooksAlike other segment (segment.mapWords words)) :
    context.SeesAlike other words content term where
  byItself := byItself
  target segment pointed := (looks segment (Segment.mem_of_pointedAt pointed)).toSameTarget
  follower _ segment _ _ pointed := (looks segment (Segment.mem_of_pointedAt pointed)).word

/-- A segment looks alike with other names in it if they stand for the same lexemes. -/
theorem looksAlike_mapWords
    {words : WordMap}
    {segment : Segment}
    (names : words.ChangesNames)
    (noun : ∀ term, segment = .term term ->
      other.nounOfTerm (term.mapWords words) = context.nounOfTerm term)
    (modifier : ∀ ref, segment = .term (.modifier ref) ->
      other.modifierOf (words.modifier ref) = context.modifierOf ref) :
    context.LooksAlike other segment (segment.mapWords words) := by
  cases segment with
  | gap | text content | tag kind => exact ⟨⟨rfl, rfl⟩, rfl⟩
  | term term =>
      have sameNoun := noun term rfl
      refine ⟨⟨sameNoun, term.form?_mapWords names⟩, ?_⟩
      cases term with
      | noun ref => exact sameNoun
      | modifier ref => exact congrArg Except.ok (modifier ref rfl)
      | gender target fallback variants | plural argument fallback variants | counter target
      | bare kind => rfl

/-- A term is the same by itself if it finds its lexeme, or its key, under another name. -/
theorem sameByItself_mapWords
    {words : WordMap}
    {term : Term}
    (names : words.ChangesNames)
    (sameGrammar : other.grammar = context.grammar)
    (noun : ∀ ref, term = .noun ref ->
      other.nounOfTerm (.noun (words.noun ref)) = context.nounOfTerm (.noun ref))
    (modifier : ∀ ref, term = .modifier ref ->
      other.modifierOf (words.modifier ref) = context.modifierOf ref)
    (plural : ∀ argument fallback variants hasZero, term = .plural argument fallback variants ->
      other.pluralKey argument hasZero = context.pluralKey argument hasZero) :
    context.SameByItself other words term := by
  cases term with
  | noun ref =>
      have sameNoun := noun ref rfl
      obtain ⟨name, renamed⟩ := names.noun ref
      have sameWord : other.nounWord (words.noun ref) = context.nounWord ref := by
        funext noun
        rw [renamed, nounWord, nounWord, sameGrammar]
      rw [SameByItself, nounText, nounText, sameNoun, sameWord]
  | modifier ref =>
      have sameLexeme := modifier ref rfl
      obtain ⟨name, renamed⟩ := names.modifier ref
      refine ⟨⟨name, ref.capitalized, renamed⟩, ?_⟩
      funext answer
      rw [modifierWord, modifierWord, sameLexeme, sameGrammar, renamed]
  | plural argument fallback variants => exact plural argument fallback variants _ rfl
  | gender target fallback variants | counter target | bare kind => trivial

/-- A term that sees alike reads alike. -/
theorem SeesAlike.readsAlike
    {words : WordMap}
    {content : List Segment}
    {term : Term}
    (sameGrammar : other.grammar = context.grammar)
    (sees : context.SeesAlike other words content term) :
    context.ReadsAlike other (Segment.among content)
      (Segment.among (content.map (Segment.mapWords words))) term (term.mapWords words) := by
  have shownTarget := Segment.shownAlike_of_map term.target?
    (Segment.pointedAt_mapWords words content term.target?) sees.target
  cases term with
  | noun ref => exact ⟨rfl, congrArg Rendering.lift sees.byItself⟩
  | modifier ref =>
      obtain ⟨⟨name, capitalized, renamed⟩, sameWord⟩ := sees.byItself
      refine ⟨rfl, modifierText_eq ?_ sameGrammar sameWord⟩
      rw [renamed]
      exact {
        kind := rfl
        form := rfl
        target := shownTarget
        followedByTarget := Iff.rfl
        follower := fun target pointed different => Segment.shownAlike_of_map ref.follower
          (Segment.pointedAt_mapWords words content ref.follower)
          fun segment => sees.follower target segment pointed different }
  | gender target fallback variants => exact ⟨genderKey_eq shownTarget, rfl⟩
  | plural argument fallback variants =>
      refine ⟨?_, rfl⟩
      rw [Term.mapWords, phraseKey, phraseKey, hasVariant_mapVariantWords, sees.byItself]
  | counter target =>
      exact ⟨rfl, congrArg Rendering.lift (counterText_eq sameGrammar shownTarget)⟩
  | bare kind => exact ⟨rfl, rfl⟩

/-- A body all of whose terms see alike once words are rewritten renders alike. -/
theorem bodyText_eq_of_seesAlike
    {body : Body}
    {words : WordMap}
    (sameGrammar : other.grammar = context.grammar)
    (sees : ∀ content term, body.Reaches context.Enters content term ->
      context.SeesAlike other words content term) :
    context.bodyText body = other.bodyText (body.mapWords words) := by
  apply bodyText_mapWords
  intro content term reached
  have alike := (sees content term reached).readsAlike sameGrammar
  exact {
    choice := chosenPhrase_mapWords alike.key
    word := alike.word }

/-- A body renders alike in two contexts in which all of its terms see alike. -/
theorem bodyText_eq_of_seesAlike_keep
    {body : Body}
    (sameGrammar : other.grammar = context.grammar)
    (sees : ∀ content term, body.Reaches context.Enters content term ->
      context.SeesAlike other .keep content term) :
    context.bodyText body = other.bodyText body := by
  rw [bodyText_eq_of_seesAlike sameGrammar sees, Body.mapWords_keep]

end Context
end Concord
