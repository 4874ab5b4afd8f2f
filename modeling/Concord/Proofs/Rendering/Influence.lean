import Concord.Proofs.Rendering.Congruence
import Concord.Proofs.Rendering.Obstruction
import Concord.Proofs.Rendering.Wrapping

/-!
# The influence of arguments

The terms of a body learn of an argument whether it is a zero and to which
category it belongs, and nothing else.  Two collections of arguments that agree
in this at every position therefore leave the same text, the placeholders
aside.  What remains to tell them apart is a number that refuses to be
compared: it is no zero and has a category, and still no phrase can be chosen
by it.
-/

namespace Concord

namespace Grammar

/-- Two values of one class: both are zeros or neither is, and they have one category. -/
structure SameClass (grammar : Grammar) (value other : Value) : Prop where
  /-- Both are numeric zeros or neither is. -/
  zero : value.isNumericZero = .ok true ↔ other.isNumericZero = .ok true
  /-- The grammar sorts both into one category. -/
  category : ∃ category,
    grammar.categoryOf value = .ok category ∧ grammar.categoryOf other = .ok category

/-- Two look-ups that are refused alike or find values of one class. -/
inductive FindsAlike (grammar : Grammar) :
    Except NumberError Value -> Except NumberError Value -> Prop
  | refused (error : NumberError) : FindsAlike grammar (.error error) (.error error)
  | found {value other : Value} :
      grammar.SameClass value other -> FindsAlike grammar (.ok value) (.ok other)

/-- Two collections of arguments that hold values of one class at every position. -/
def ClassedAlike (grammar : Grammar) (arguments other : Value) : Prop :=
  ∀ index : Int, grammar.FindsAlike (arguments.entryAt (some index)) (other.entryAt (some index))

theorem Disregards.sameClass
    {grammar : Grammar}
    {value other : Value}
    (disregarded : grammar.Disregards value)
    (otherDisregarded : grammar.Disregards other) :
    grammar.SameClass value other where
  zero := by rw [disregarded.nonzero, otherDisregarded.nonzero]
  category := ⟨.other, disregarded.category, otherDisregarded.category⟩

/-- A text that reads as no number counts for as much as an absent argument. -/
theorem disregards_text
    {text : String}
    (noNumber : (Value.text text).decimal? = none)
    (grammar : Grammar) :
    grammar.Disregards (.text text) where
  nonzero := rfl
  category := by
    have writable : ¬ (Value.text text).isUnwritableInteger = true := Bool.false_ne_true
    rw [categoryOf, pluralCategory, Value.operands, if_neg writable, noNumber]
    rfl

end Grammar

namespace Value

/-- At a position two collections hold numbers that refuse to be compared both or neither. -/
def RefuseAlike (arguments other : Value) (index : Int) : Prop :=
  ∀ value otherValue,
    arguments.entryAt (some index) = .ok value -> other.entryAt (some index) = .ok otherValue ->
      (value.IsSignaling ↔ otherValue.IsSignaling)

theorem isNumericZero_of_isSignaling
    {value : Value}
    (signaling : value.IsSignaling) :
    value.isNumericZero = .error .signaling := by
  obtain ⟨negative, payload, rfl⟩ := signaling
  rfl

end Value

namespace Context

variable (context other : Context)

/-- By an argument that refuses to be compared, no variant can be chosen. -/
theorem pluralKey_of_isSignaling
    {argument : Option Int}
    {value : Value}
    (read : context.arguments.entryAt argument = .ok value)
    (signaling : value.IsSignaling)
    (hasZero : Bool) :
    context.pluralKey argument hasZero = .error .signaling :=
  pluralKey_of_uncompared read (Value.isNumericZero_of_isSignaling signaling) hasZero

/-- Arguments of one class that are compared alike choose the same variant. -/
theorem pluralKey_of_findsAlike
    {index : Int}
    (sameGrammar : other.grammar = context.grammar)
    (findsAlike : context.grammar.FindsAlike (context.arguments.entryAt (some index))
      (other.arguments.entryAt (some index)))
    (refuseAlike : context.arguments.RefuseAlike other.arguments index)
    (hasZero : Bool) :
    other.pluralKey (some index) hasZero = context.pluralKey (some index) hasZero := by
  unfold Value.RefuseAlike at refuseAlike
  -- The look-ups are made variables, so that the ways in which they go alike can be told apart.
  generalize read : context.arguments.entryAt (some index) = found at findsAlike refuseAlike
  generalize readThere : other.arguments.entryAt (some index) = foundThere at findsAlike refuseAlike
  cases findsAlike with
  | refused error => rw [pluralKey_of_refused read, pluralKey_of_refused readThere]
  | @found value otherValue sameClass =>
      by_cases signaling : value.IsSignaling
      · have signalingThere := (refuseAlike value otherValue rfl rfl).mp signaling
        rw [context.pluralKey_of_isSignaling read signaling,
          other.pluralKey_of_isSignaling readThere signalingThere]
      · have signalingThere := mt (refuseAlike value otherValue rfl rfl).mpr signaling
        obtain ⟨isZero, compared⟩ := value.isNumericZero_ok_iff.mpr signaling
        obtain ⟨isZeroThere, comparedThere⟩ := otherValue.isNumericZero_ok_iff.mpr signalingThere
        obtain ⟨sameZero, category, sorted, sortedThere⟩ := sameClass
        rw [compared, comparedThere, Except.ok.injEq, Except.ok.injEq,
          ← Bool.eq_iff_iff] at sameZero
        rw [pluralKey_eq read compared, pluralKey_eq readThere comparedThere, sameZero, sameGrammar,
          sorted, sortedThere]

/-- A value with a category chooses a variant unless it refuses to be compared. -/
theorem exists_pluralKey
    {index : Int}
    {value : Value}
    {category : PluralCategory}
    (read : context.arguments.entryAt (some index) = .ok value)
    (sorted : context.grammar.categoryOf value = .ok category)
    (hasZero : Bool) :
    (∃ key, context.pluralKey (some index) hasZero = .ok key) ↔ ¬ value.IsSignaling := by
  constructor
  · rintro ⟨key, chosen⟩ signaling
    rw [context.pluralKey_of_isSignaling read signaling] at chosen
    cases chosen
  · intro comparable
    obtain ⟨isZero, compared⟩ := value.isNumericZero_ok_iff.mpr comparable
    rw [pluralKey_eq read compared, sorted]
    split
    · exact ⟨_, rfl⟩
    · exact ⟨_, rfl⟩

end Context

namespace Localizer

variable (localizer : Localizer) (nouns : Value) {arguments other : Value}

/-- A body renders alike if its plural phrases ask for arguments that are compared alike. -/
theorem bodyText_of_classedAlike
    (alike : localizer.grammar.ClassedAlike arguments other)
    {body : Body}
    (refuseAlike : ∀ content index fallback variants,
      body.Reaches (localizer.context nouns arguments).Enters content
        (.plural (some index) fallback variants) ->
      arguments.RefuseAlike other index) :
    (localizer.context nouns arguments).bodyText body =
      (localizer.context nouns other).bodyText body := by
  refine Context.bodyText_congr ?_ ?_
  · intro content term reached
    cases term with
    | plural argument fallback variants =>
        cases argument with
        | none => rfl
        | some index =>
            have sameKey (hasZero : Bool) :
                (localizer.context nouns other).pluralKey (some index) hasZero =
                  (localizer.context nouns arguments).pluralKey (some index) hasZero :=
              (localizer.context nouns arguments).pluralKey_of_findsAlike
                (localizer.context nouns other) rfl (alike index)
                (refuseAlike content index fallback variants reached) hasZero
            rw [Context.chosenPhrase, Context.chosenPhrase, Context.phraseKey, Context.phraseKey,
              sameKey]
    | noun ref | modifier ref | gender target fallback variants | counter target | bare kind =>
        rfl
  · intro content term reached
    cases term <;> rfl

/-- A body that does no more than ask for the argument at a position. -/
def askingBody (index : Int) : Body :=
  .segments [.term (.plural (some index) (.text "items") [])]

theorem succeeds_askingBody_iff (context : Context) (index : Int) :
    (context.bodyText (askingBody index)).Succeeds ↔
      ∃ key, context.pluralKey (some index) false = .ok key := by
  have noZero : Context.hasVariant PluralCategory.zero.name [] = false := rfl
  rw [askingBody, Context.bodyText_segments, Context.segmentsText_cons, Context.segmentsText_nil,
    Rendering.append_empty, Context.segmentText, Context.termText_eq, Context.chosenPhrase,
    Context.phraseKey, noZero, Rendering.succeeds_lift_bind]
  cases context.pluralKey (some index) false with
  | error error => simp [Except.map]
  | ok key => exact ⟨fun _ => ⟨key, rfl⟩, fun _ => ⟨_, rfl, Rendering.succeeds_pure "items"⟩⟩

/-- If all bodies render alike, what refuses to be compared stands across from what does so too. -/
theorem refuseAlike_of_bodyText
    (alike : localizer.grammar.ClassedAlike arguments other)
    (sameText : ∀ body, (localizer.context nouns arguments).bodyText body =
      (localizer.context nouns other).bodyText body)
    (index : Int) :
    arguments.RefuseAlike other index := by
  classical
  intro value otherValue read readThere
  have findsAlike := alike index
  rw [read, readThere] at findsAlike
  cases findsAlike with
  | found sameClass =>
      obtain ⟨category, sorted, sortedThere⟩ := sameClass.category
      have chooses : (∃ key, (localizer.context nouns arguments).pluralKey (some index) false =
            .ok key) ↔ ¬ value.IsSignaling :=
        (localizer.context nouns arguments).exists_pluralKey read sorted false
      have choosesThere : (∃ key, (localizer.context nouns other).pluralKey (some index) false =
            .ok key) ↔ ¬ otherValue.IsSignaling :=
        (localizer.context nouns other).exists_pluralKey readThere sortedThere false
      rw [← succeeds_askingBody_iff] at chooses choosesThere
      apply Decidable.not_iff_not.mp
      rw [← chooses, ← choosesThere, sameText]

/--
Of the arguments only their classes count while a body is rendered.  All bodies
render alike for arguments of one class exactly if at no position a number
refuses to be compared on one side only, and a body does if none of its plural
phrases that are reached asks for such a position.  Arguments that are neither
zeros nor of a category of their own, such as texts that are no numbers, leave
what is left without any arguments.
-/
theorem bodyText_follows_classes :
    (∀ arguments other, localizer.grammar.ClassedAlike arguments other ->
      ((∀ body, (localizer.context nouns arguments).bodyText body =
          (localizer.context nouns other).bodyText body) ↔
        ∀ index, arguments.RefuseAlike other index) ∧
      ∀ body,
        (∀ content index fallback variants,
          body.Reaches (localizer.context nouns arguments).Enters content
            (.plural (some index) fallback variants) ->
          arguments.RefuseAlike other index) ->
        (localizer.context nouns arguments).bodyText body =
          (localizer.context nouns other).bodyText body) ∧
    ∀ arguments,
      (∀ index : Int, ∃ value, arguments.entryAt (some index) = .ok value ∧
        localizer.grammar.Disregards value) ->
      ∀ body, (localizer.context nouns arguments).bodyText body =
        (localizer.context nouns .null).bodyText body := by
  refine ⟨?_, ?_⟩
  · intro arguments other alike
    refine ⟨⟨localizer.refuseAlike_of_bodyText nouns alike, ?_⟩, ?_⟩
    · intro refuseAlike body
      apply localizer.bodyText_of_classedAlike nouns alike
      exact fun _ index _ _ _ => refuseAlike index
    · intro body refuseAlike
      exact localizer.bodyText_of_classedAlike nouns alike refuseAlike
  · intro arguments disregarded body
    have nothing (index : Int) : Value.null.entryAt (some index) = .ok .null := rfl
    apply localizer.bodyText_of_classedAlike nouns
    · intro index
      obtain ⟨value, read, disregards⟩ := disregarded index
      rw [read, nothing]
      exact .found (disregards.sameClass localizer.grammar.disregards_null)
    · intro content index _ _ _ value otherValue read readThere
      obtain ⟨found, readFound, disregards⟩ := disregarded index
      rw [nothing] at readThere
      cases readThere
      have comparable : ¬ value.IsSignaling := by
        rw [readFound] at read
        cases read
        exact value.isNumericZero_ok_iff.mp ⟨false, disregards.nonzero⟩
      have nullComparable : ¬ Value.null.IsSignaling :=
        Value.null.isNumericZero_ok_iff.mp ⟨false, rfl⟩
      exact iff_of_false comparable nullComparable

end Localizer

/-- Lists whose elements are of one class, position by position. -/
theorem Grammar.classedAlike_list
    {grammar : Grammar}
    {items others : List Value}
    (alike : ∀ position : Nat,
      grammar.SameClass (items[position]?.getD .null) (others[position]?.getD .null)) :
    grammar.ClassedAlike (.list items) (.list others) := by
  intro index
  have read (values : List Value) : (Value.list values).entryAt (some index) =
      .ok (if index < 0 then .null else values[index.toNat]?.getD .null) := by
    by_cases negative : index < 0 <;>
      simp [Value.entryAt, Value.needsLongDigits, Value.entryAt?, negative]
  rw [read, read]
  apply FindsAlike.found
  split
  · exact grammar.disregards_null.sameClass grammar.disregards_null
  · exact alike index.toNat

/-- Lists of values that can all be compared. -/
theorem Value.refuseAlike_list
    {items others : List Value}
    (comparable : ∀ item ∈ items, ¬ item.IsSignaling)
    (othersComparable : ∀ item ∈ others, ¬ item.IsSignaling)
    (index : Int) :
    (Value.list items).RefuseAlike (.list others) index := by
  have nullComparable : ¬ Value.null.IsSignaling :=
    Value.null.isNumericZero_ok_iff.mp ⟨false, rfl⟩
  have atIndex {values : List Value} (all : ∀ item ∈ values, ¬ item.IsSignaling)
      {value : Value} (read : (Value.list values).entryAt (some index) = .ok value) :
      ¬ value.IsSignaling := by
    obtain ⟨entry, found, isNull | present⟩ := Localizer.entryAt_list values (some index)
    · rw [found, isNull] at read
      cases read
      exact nullComparable
    · rw [found] at read
      cases read
      exact all _ present
  intro value otherValue read readThere
  exact iff_of_false (atIndex comparable read) (atIndex othersComparable readThere)

/-! ## Arguments in English -/

namespace Localizer

/-- English with an empty catalog. -/
def wordlessEnglish : Localizer :=
  ⟨.empty, .ofLocale {} none, "MISSING"⟩

/-- A body that names the category of the first argument. -/
def namingBody : Body :=
  .segments [.term (.plural (some 0) (.text "") namedCategories)]

/-- Five and seven are of one class in English, and the word five is of that of nothing. -/
theorem bodyText_follows_classes_five :
    wordlessEnglish.grammar.ClassedAlike (.list [.integer 5]) (.list [.text " 0_7 "]) ∧
      (wordlessEnglish.context .null (.list [.integer 5])).bodyText namingBody =
        (wordlessEnglish.context .null (.list [.text " 0_7 "])).bodyText namingBody ∧
      (wordlessEnglish.context .null (.list [.text "five"])).bodyText namingBody =
        (wordlessEnglish.context .null .null).bodyText namingBody := by
  obtain ⟨ofClass, ofNone⟩ := wordlessEnglish.bodyText_follows_classes .null
  have alike : wordlessEnglish.grammar.ClassedAlike (.list [.integer 5])
      (.list [.text " 0_7 "]) := by
    apply Grammar.classedAlike_list
    intro position
    cases position with
    | zero => exact ⟨by decide, .other, by decide +kernel, by decide +kernel⟩
    | succ position => exact ⟨Iff.rfl, .other, rfl, rfl⟩
  have comparable (index : Int) :
      (Value.list [.integer 5]).RefuseAlike (.list [.text " 0_7 "]) index := by
    apply Value.refuseAlike_list <;> simp [Value.IsSignaling]
  have disregarded (index : Int) : ∃ value,
      (Value.list [.text "five"]).entryAt (some index) = .ok value ∧
        wordlessEnglish.grammar.Disregards value := by
    obtain ⟨value, read, isNull | present⟩ := entryAt_list [.text "five"] (some index)
    · exact ⟨value, read, isNull ▸ wordlessEnglish.grammar.disregards_null⟩
    · rw [List.mem_singleton.mp present] at read
      exact ⟨_, read, Grammar.disregards_text (by decide +kernel) wordlessEnglish.grammar⟩
  refine ⟨alike, ?_, ofNone _ disregarded namingBody⟩
  exact (ofClass _ _ alike).1.mpr comparable namingBody

/-- An undefined number that refuses to be compared is of the class of an absent argument. -/
theorem bodyText_of_signaling :
    wordlessEnglish.grammar.ClassedAlike
        (.list [.decimal (.undefined false true 0)]) (.list [.null]) ∧
      ((wordlessEnglish.context .null (.list [.decimal (.undefined false true 0)])).bodyText
        (askingBody 0)).outcome = .error .signaling ∧
      ((wordlessEnglish.context .null (.list [.null])).bodyText (askingBody 0)).outcome =
        .ok "items" := by
  refine ⟨?_, by decide +kernel, by decide +kernel⟩
  apply Grammar.classedAlike_list
  intro position
  cases position with
  | zero => exact ⟨by decide, .other, by decide +kernel, by decide +kernel⟩
  | succ position => exact ⟨Iff.rfl, .other, rfl, rfl⟩

end Localizer
end Concord
