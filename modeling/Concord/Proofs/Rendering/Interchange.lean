import Concord.Proofs.Rendering.Failure
import Concord.Proofs.Rendering.Neighbourhood
import Concord.Proofs.Value.Shape

/-!
# Interchangeable shapes

A label renders alike whether nouns and arguments are given as lists, as tuples
or as mappings from positions, with one exception: a term that asks a mapping
for a position with too many digits stops the rendering, where a list has
nothing at that position.  Placeholders never ask that far.
-/

namespace Concord

/-- Every position at which a term of a body asks the caller can be written. -/
def Body.AsksWritable (body : Body) : Prop :=
  ∀ content term index, body.Holds content term -> term.argument? = some index ->
    Concord.isWritable index = true

namespace Context

/-- A term asks the caller for a position that has too many digits to be looked up. -/
def AsksTooFar (context : Context) (content : List Segment) : Term -> Prop
  | .plural argument _ _ => context.arguments.IsUnreadableAt argument
  | term => context.Obstructs content term

section

variable {context : Context} {body : Body} {content : List Segment} {term : Term}

/-- A term that asks too far obstructs its body. -/
theorem obstructs_of_asksTooFar
    (far : context.AsksTooFar content term) :
    context.Obstructs content term := by
  cases term with
  | plural argument fallback variants => exact .inl far
  | noun ref | modifier ref | gender target fallback variants | counter target | bare kind =>
      exact far

/-- What a term that does not ask too far points at as its noun can be taken as a noun. -/
theorem not_obstructsNoun_of_target
    {segment : Segment}
    (near : ¬ context.AsksTooFar content term)
    (pointed : Segment.pointedAt (Segment.among content) term.target? = .ok (some segment)) :
    ¬ context.ObstructsNoun segment := by
  intro cannot
  apply near
  cases term with
  | noun ref | plural argument fallback variants | bare kind => cases pointed
  | modifier ref => exact .inl ⟨segment, pointed, cannot⟩
  | gender target fallback variants | counter target => exact ⟨segment, pointed, cannot⟩

/-- The word after such a term can be named if it is a noun. -/
theorem not_cannotName_of_follower
    {target : Segment}
    {noun : NounTerm}
    (near : ¬ context.AsksTooFar content term)
    (targeted : Segment.pointedAt (Segment.among content) term.target? = .ok (some target))
    (different : term.follower? ≠ term.target?)
    (pointed : Segment.pointedAt (Segment.among content) term.follower? =
      .ok (some (.term (.noun noun)))) :
    ¬ context.CannotName (.noun noun) := by
  intro cannot
  apply near
  cases term with
  | modifier ref => exact .inr ⟨⟨target, targeted⟩, different, noun, pointed, cannot⟩
  | noun ref | gender target fallback variants | plural argument fallback variants
  | counter target | bare kind => cases pointed

/-- The caller is asked by a term of a body for a position with too many digits. -/
def IsAskedTooFar (context : Context) (body : Body) : Prop :=
  ∃ content term index, body.Holds content term ∧ term.argument? = some index ∧
    (context.nouns.needsLongDigits index = true ∨
      context.arguments.needsLongDigits index = true)

theorem isAskedTooFar_of_cannotName
    (held : body.Holds content term)
    (cannot : context.CannotName term) :
    context.IsAskedTooFar body := by
  obtain ⟨index, asks, long⟩ := cannot
  exact ⟨content, term, index, held, asks, .inl long⟩

theorem isAskedTooFar_of_obstructsNounAt
    {position : Option Int}
    (held : body.Holds content term)
    (obstructs : context.ObstructsNounAt content position) :
    context.IsAskedTooFar body := by
  obtain ⟨segment, pointed, other, rfl, cannot⟩ := obstructs
  exact isAskedTooFar_of_cannotName (held.sibling (Segment.mem_of_pointedAt pointed)) cannot

/-- If a term asks too far, the position is one that it or a term beside it asks for. -/
theorem isAskedTooFar_of_asksTooFar
    (held : body.Holds content term)
    (far : context.AsksTooFar content term) :
    context.IsAskedTooFar body := by
  cases term with
  | noun ref => exact isAskedTooFar_of_cannotName held far
  | modifier ref =>
      rcases far with atTarget | ⟨_, _, noun, pointed, cannot⟩
      · exact isAskedTooFar_of_obstructsNounAt held atTarget
      · have heldNoun := held.sibling (Segment.mem_of_pointedAt pointed)
        exact isAskedTooFar_of_cannotName heldNoun cannot
  | gender target fallback variants | counter target =>
      exact isAskedTooFar_of_obstructsNounAt held far
  | plural argument fallback variants =>
      obtain ⟨index, asks, long⟩ := far
      exact ⟨content, _, index, held, asks, .inr long⟩
  | bare kind => exact far.elim

end

/--
Two contexts that differ in the shapes of nouns and arguments alone: wherever the
first can look something up, the second finds the same.
-/
structure Reshaped (context other : Context) : Prop where
  /-- The catalog is the same. -/
  catalog : other.catalog = context.catalog
  /-- The grammar is the same. -/
  grammar : other.grammar = context.grammar
  /-- Nouns are given in the first context. -/
  given : context.nouns ≠ .null
  /-- Nouns are given in the second context. -/
  otherGiven : other.nouns ≠ .null
  /-- A noun that can be looked up in the first context is the same in the second. -/
  noun : ∀ index, context.nouns.needsLongDigits index = false ->
    other.nouns.entryAt (some index) = context.nouns.entryAt (some index)
  /-- An argument that can be looked up in the first context is the same in the second. -/
  argument : ∀ index, context.arguments.needsLongDigits index = false ->
    other.arguments.entryAt (some index) = context.arguments.entryAt (some index)

namespace Reshaped

variable {context other : Context} (reshaped : context.Reshaped other)

include reshaped

/-- A noun that can be named is the same in both shapes. -/
theorem nounOfTerm_eq
    {term : Term}
    (nameable : ¬ context.CannotName term) :
    other.nounOfTerm term = context.nounOfTerm term := by
  have sameName : other.nounName? term = context.nounName? term := by
    cases asks : term.argument? with
    | none => rw [nounName?_of_no_argument _ asks, nounName?_of_no_argument _ asks]
    | some index =>
        have short : context.nouns.needsLongDigits index = false :=
          Bool.eq_false_iff.mpr fun long => nameable ⟨index, asks, long⟩
        rw [nounName?_of_given asks reshaped.given, nounName?_of_given asks reshaped.otherGiven,
          reshaped.noun index short]
  rw [nounOfTerm, nounOfTerm, sameName, reshaped.catalog]

theorem modifierOf_eq (ref : ModifierTerm) : other.modifierOf ref = context.modifierOf ref := by
  rw [modifierOf, modifierOf, reshaped.catalog]

/-- A segment that can be taken as a noun is the same target in both shapes. -/
theorem sameTarget
    {segment : Segment}
    (nameable : ¬ context.ObstructsNoun segment) :
    context.SameTarget other segment segment where
  noun := by
    cases segment with
    | gap | text content | tag kind => rfl
    | term term => exact reshaped.nounOfTerm_eq fun cannot => nameable ⟨term, rfl, cannot⟩
  form := rfl

theorem sameFollower
    {segment : Segment}
    (nameable : ∀ noun, segment = .term (.noun noun) -> ¬ context.CannotName (.noun noun)) :
    context.SameFollower other segment segment := by
  cases segment with
  | gap | text content | tag kind => rfl
  | term term =>
      cases term with
      | noun ref => exact reshaped.nounOfTerm_eq (nameable ref rfl)
      | modifier ref => exact congrArg Except.ok (reshaped.modifierOf_eq ref)
      | gender target fallback variants | plural argument fallback variants | counter target
      | bare kind => rfl

/-- An argument that can be looked up chooses the same variant in both shapes. -/
theorem pluralKey_eq
    {argument : Option Int}
    (readable : ¬ context.arguments.IsUnreadableAt argument)
    (hasZero : Bool) :
    other.pluralKey argument hasZero = context.pluralKey argument hasZero := by
  have sameValue : other.arguments.entryAt argument = context.arguments.entryAt argument := by
    cases argument with
    | none => rfl
    | some index =>
        apply reshaped.argument
        exact Bool.eq_false_iff.mpr fun long => readable ⟨index, rfl, long⟩
  rw [pluralKey, pluralKey, sameValue, reshaped.grammar]

/-- A term that does not ask too far sees alike in both contexts. -/
theorem seesAlike
    {content : List Segment}
    {term : Term}
    (near : ¬ context.AsksTooFar content term) :
    context.SeesAlike other .keep content term where
  byItself := by
    apply sameByItself_mapWords WordMap.keep_changesNames reshaped.grammar
    · rintro ref rfl
      exact reshaped.nounOfTerm_eq near
    · exact fun ref _ => reshaped.modifierOf_eq ref
    · rintro argument fallback variants hasZero rfl
      exact reshaped.pluralKey_eq near hasZero
  target segment pointed := by
    rw [segment.mapWords_keep_eq]
    exact reshaped.sameTarget (not_obstructsNoun_of_target near pointed)
  follower target segment targeted different pointed := by
    rw [segment.mapWords_keep_eq]
    apply reshaped.sameFollower
    rintro noun rfl
    exact not_cannotName_of_follower near targeted different pointed

/-- A body in which no term that is reached asks too far renders alike in both contexts. -/
theorem bodyText_eq
    {body : Body}
    (near : ∀ content term, body.Reaches context.Enters content term ->
      ¬ context.AsksTooFar content term) :
    context.bodyText body = other.bodyText body := by
  apply bodyText_eq_of_seesAlike_keep reshaped.grammar
  intro content term reached
  exact reshaped.seesAlike (near content term reached)

end Reshaped
end Context

open Value (Shape)

/-- A placeholder is filled alike from every shape. -/
theorem slotText_collect (shape : Shape) (items : List Value) (digits : List Char) :
    slotText (shape.collect items) digits = slotText (.list items) digits := by
  rw [slotText, slotText, Shape.entryAt?_collect]

namespace Localizer

/-- No term that is reached in the body of a label asks the caller too far. -/
def StaysNear (localizer : Localizer) (id nouns arguments : Value) : Prop :=
  ∀ body, localizer.usableLabel id = .ok (some body) ->
    ∀ content term, body.Reaches (localizer.context nouns arguments).Enters content term ->
      ¬ (localizer.context nouns arguments).AsksTooFar content term

section

variable
  (localizer : Localizer)
  (id : Value)
  (nouns arguments : List Value)
  (nounShape argumentShape : Shape)

/-- Nouns and arguments in any shapes give the context of the lists, reshaped. -/
theorem reshaped_collect :
    (localizer.context (nounShape.collect nouns) (argumentShape.collect arguments)).Reshaped
      (localizer.context (.list nouns) (.list arguments)) where
  catalog := rfl
  grammar := rfl
  given := nounShape.collect_ne_null nouns
  otherGiven := Shape.collect_ne_null .list nouns
  noun _ short := (Shape.entryAt_collect short).symm
  argument _ short := (Shape.entryAt_collect short).symm

/-- Where nothing asks too far, a label has the same text in every shape. -/
theorem text_collect_of_staysNear
    (near : localizer.StaysNear id (nounShape.collect nouns) (argumentShape.collect arguments)) :
    localizer.text id (nounShape.collect nouns) (argumentShape.collect arguments) =
      localizer.text id (.list nouns) (.list arguments) := by
  have sameUnfilled :
      localizer.unfilledText id (nounShape.collect nouns) (argumentShape.collect arguments) =
        localizer.unfilledText id (.list nouns) (.list arguments) := by
    apply unfilledText_congr
    · rfl
    · rfl
    · intro body usable
      exact (localizer.reshaped_collect nouns arguments nounShape argumentShape).bodyText_eq
        (near body usable)
  have sameFill : (fun text => fill text (argumentShape.collect arguments)) =
      fun text => fill text (.list arguments) := by
    funext text
    apply fill_congr (Shape.collect_ne_null .list arguments)
      (argumentShape.collect_ne_null arguments)
    exact slotText_collect argumentShape arguments
  rw [text, text, sameUnfilled, sameFill]

end

/-- Only a label that stays near renders to a text. -/
theorem staysNear_of_text_ok
    {localizer : Localizer}
    {id nouns arguments : Value}
    {text : String}
    (renders : (localizer.text id nouns arguments).outcome = .ok text) :
    localizer.StaysNear id nouns arguments := by
  have clear := (localizer.text_ok_iff id nouns arguments).mp ⟨text, renders⟩
  intro body usable content term reached far
  exact clear.terms body usable content term reached (Context.obstructs_of_asksTooFar far)

/-- A label stays near unless the caller is asked for a position with too many digits. -/
theorem staysNear_of_not_asked
    {localizer : Localizer}
    {id nouns arguments : Value}
    (near : ∀ body, localizer.usableLabel id = .ok (some body) ->
      ¬ (localizer.context nouns arguments).IsAskedTooFar body) :
    localizer.StaysNear id nouns arguments := by
  intro body usable content term reached far
  have held := Context.holds_of_reaches reached
  exact near body usable (Context.isAskedTooFar_of_asksTooFar held far)

/--
Nouns and arguments in any shape give the text that they give as lists, unless a
term that is reached asks a mapping for a position with too many digits; then
there is no text.  Lists and tuples are never asked too far, and no shape is by
a body whose positions can be written.
-/
theorem text_collect_eq_or_fails
    (localizer : Localizer)
    (id : Value)
    (nouns arguments : List Value)
    (nounShape argumentShape : Shape) :
    (localizer.StaysNear id (nounShape.collect nouns) (argumentShape.collect arguments) ->
        localizer.text id (nounShape.collect nouns) (argumentShape.collect arguments) =
          localizer.text id (.list nouns) (.list arguments)) ∧
      (¬ localizer.StaysNear id (nounShape.collect nouns) (argumentShape.collect arguments) ->
        ∀ text, (localizer.text id (nounShape.collect nouns)
          (argumentShape.collect arguments)).outcome ≠ .ok text) ∧
      (nounShape.isMapping = false -> argumentShape.isMapping = false ->
        localizer.StaysNear id (nounShape.collect nouns) (argumentShape.collect arguments)) ∧
      ((∀ body, localizer.usableLabel id = .ok (some body) -> body.AsksWritable) ->
        localizer.StaysNear id (nounShape.collect nouns) (argumentShape.collect arguments)) := by
  refine ⟨localizer.text_collect_of_staysNear id nouns arguments nounShape argumentShape,
    ?_, ?_, ?_⟩
  · intro far text renders
    exact far (staysNear_of_text_ok renders)
  · intro nounsListed argumentsListed
    apply staysNear_of_not_asked
    rintro body _ ⟨content, term, index, _, _, longNoun | longArgument⟩
    · have short := nounShape.needsLongDigits_collect_of_not_mapping nouns index nounsListed
      exact Bool.false_ne_true (short.symm.trans longNoun)
    · have short :=
        argumentShape.needsLongDigits_collect_of_not_mapping arguments index argumentsListed
      exact Bool.false_ne_true (short.symm.trans longArgument)
  · intro writable
    apply staysNear_of_not_asked
    rintro body usable ⟨content, term, index, held, asks, longNoun | longArgument⟩
    · have short := nounShape.needsLongDigits_collect_of_writable nouns index
        (writable body usable content term index held asks)
      exact Bool.false_ne_true (short.symm.trans longNoun)
    · have short := argumentShape.needsLongDigits_collect_of_writable arguments index
        (writable body usable content term index held asks)
      exact Bool.false_ne_true (short.symm.trans longArgument)

/-- A label that counts a noun of the caller, with the noun inside the phrases. -/
def countedFruit : List MergeCall :=
  [.bundle (.map [
    (.text "terms", .map [
      (.text "n", .map [(.text "apple", .map [(.text "v", .map [
        (.text "s", .text "apple"), (.text "p", .text "apples")])])])]),
    (.text "labels", .map [
      (.text "fruit", .list [.map [(.text "t", .text "p"), (.text "i", .integer 0),
        (.text "v", .map [(.text "one", .list [.text "{0} ",
          .map [(.text "t", .text "n"), (.text "i", .integer 0), (.text "f", .text "s")]])]),
        (.text "def", .list [.text "{0} ",
          .map [(.text "t", .text "n"), (.text "i", .integer 0), (.text "f", .text "p")]])]])])])]

/-- The body of this label. -/
def fruitBody : Body :=
  .segments [
    .term (.plural (some 0)
      (.segments [.text "{0} ", .term (.noun ⟨none, some "p", false, some 0⟩)])
      [("one", .segments [.text "{0} ", .term (.noun ⟨none, some "s", false, some 0⟩)])])]

/-- An English localizer with this label. -/
def fruitLocalizer : Localizer :=
  ofLocale {} (MergeCall.catalogAfter countedFruit) none

theorem usableLabel_fruit : fruitLocalizer.usableLabel (.text "fruit") = .ok (some fruitBody) := rfl

theorem asksWritable_fruitBody : fruitBody.AsksWritable := by
  intro content term index held asks
  simp [fruitBody, Body.reaches_segments, Term.phrases] at held
  rcases held with ⟨_, rfl⟩ | ⟨_, rfl⟩ | ⟨_, rfl⟩ <;> cases asks <;> decide +kernel

theorem text_collect_eq_or_fails_fruit :
    (∀ body, fruitLocalizer.usableLabel (.text "fruit") = .ok (some body) -> body.AsksWritable) ∧
      fruitLocalizer.StaysNear (.text "fruit") (Shape.digits.collect [.text "Apple"])
        (Shape.numbered.collect [.integer 1]) ∧
      (fruitLocalizer.text (.text "fruit") (Shape.digits.collect [.text "Apple"])
        (Shape.numbered.collect [.integer 1])).outcome = .ok "1 apple" := by
  have writable : ∀ body, fruitLocalizer.usableLabel (.text "fruit") = .ok (some body) ->
      body.AsksWritable := by
    intro body usable
    rw [usableLabel_fruit] at usable
    obtain rfl := Option.some.inj (Except.ok.inj usable)
    exact asksWritable_fruitBody
  have interchange := text_collect_eq_or_fails fruitLocalizer (.text "fruit") [.text "Apple"]
    [.integer 1] .digits .numbered
  have near := interchange.2.2.2 writable
  refine ⟨writable, near, ?_⟩
  rw [interchange.1 near]
  decide +kernel

/-- A label that asks for an argument at a position with too many digits, with a fallback. -/
def farItems : Value :=
  .map [(.text "items", .list [.map [(.text "t", .text "p"),
    (.text "i", .decimal (.finite ⟨false, 1, 4300⟩)), (.text "def", .text "items")]])]

/-- An argument far off is missing from a list and stops the rendering of a mapping. -/
theorem text_of_far_argument_differs :
    ((ofLocale {} (MergeCall.catalogAfter [.labels farItems]) none).text (.text "items")
        (.list []) (.list [.text "a"])).outcome = .ok "items" ∧
      ((ofLocale {} (MergeCall.catalogAfter [.labels farItems]) none).text (.text "items")
        (.list []) (Shape.numbered.collect [.text "a"])).outcome = .error .unwritable ∧
      ((ofLocale {} (MergeCall.catalogAfter [.labels farItems]) none).text (.text "items")
        (.list []) (Shape.digits.collect [.text "a"])).outcome = .error .unwritable := by
  decide +kernel

end Localizer
end Concord
