import Concord.Proofs.Catalog.History
import Concord.Proofs.Rendering.Obstruction
import Concord.Rendering.Localizer

/-!
# When a label renders

A label renders to a text unless its name cannot be written, a term that is
reached obstructs its body, or a placeholder of the text has too many digits or
stands for a value that has.  Everything else that is missing or malformed
leaves the empty text, a fallback or the placeholder itself.
-/

namespace Concord

/-- A placeholder that is too long to be read, or stands for a value too long to be written. -/
def Value.ObstructsSlot (arguments : Value) (digits : List Char) : Prop :=
  digitLimit < digits.length ∨
    ∃ value, arguments.entryAt? (Nat.ofDigitChars 10 digits 0) = some value ∧
      (unwrapped value).isWritable = false

/-- A placeholder has a text exactly if its argument does not obstruct it. -/
theorem slotText_ok_iff (arguments : Value) (digits : List Char) :
    (∃ chars, slotText arguments digits = .ok chars) ↔ ¬ arguments.ObstructsSlot digits := by
  unfold slotText Value.ObstructsSlot
  by_cases short : digits.length ≤ digitLimit
  · have notLong : ¬ digitLimit < digits.length := Nat.not_lt.mpr short
    rw [checkDigitCount_of_le short]
    cases found : arguments.entryAt? (Nat.ofDigitChars 10 digits 0) with
    | none => simp [bind, Except.bind, pure, Except.pure, notLong]
    | some value =>
        have shown := (unwrapped value).argumentText_ok_iff
        cases text : (unwrapped value).argumentText with
        | error error => simp_all [bind, Except.bind]
        | ok text => simp_all [bind, Except.bind, pure, Except.pure]
  · have long : digitLimit < digits.length := Nat.lt_of_not_le short
    simp [bind, Except.bind, long]

/-- Pieces have a text together exactly if every slot among them has one. -/
theorem piecesText_ok_iff (arguments : Value) (pieces : List Piece) :
    (∃ chars, piecesText arguments pieces = .ok chars) ↔
      ∀ digits, Piece.slot digits ∈ pieces -> ¬ arguments.ObstructsSlot digits := by
  induction pieces with
  | nil => simp [piecesText]
  | cons piece rest inductionHypothesis =>
      have both : (∃ chars, piecesText arguments (piece :: rest) = .ok chars) ↔
          (∃ chars, pieceText arguments piece = .ok chars) ∧
            ∃ chars, piecesText arguments rest = .ok chars := by
        rw [piecesText]
        cases pieceText arguments piece with
        | error error => simp [bind, Except.bind]
        | ok first =>
            cases piecesText arguments rest <;> simp [bind, Except.bind, pure, Except.pure]
      rw [both, inductionHypothesis]
      cases piece with
      | plain c => simp [pieceText]
      | slot digits => simp [pieceText, slotText_ok_iff, or_imp, forall_and]

/-- A text is filled exactly if no placeholder in it is obstructed, or if there are no arguments. -/
theorem fillPlaceholders_ok_iff (text : String) (arguments : Value) :
    (∃ filled, fillPlaceholders text arguments = .ok filled) ↔
      (arguments ≠ .null -> ∀ digits, Piece.slot digits ∈ Piece.scan text.toList ->
        ¬ arguments.ObstructsSlot digits) := by
  unfold fillPlaceholders
  split
  · simp
  · rename_i given
    rw [exists_map_ok_iff, piecesText_ok_iff]
    simp_all

namespace Localizer

/-- A label is looked up exactly if its name can be written or there is nothing to look it up in. -/
theorem usableLabel_ok_iff (localizer : Localizer) (id : Value) :
    (∃ body, localizer.usableLabel id = .ok body) ↔
      localizer.catalog.labels = [] ∨ id.isWritable = true := by
  rw [usableLabel, exists_map_ok_iff, Catalog.labelUnder]
  cases labels : localizer.catalog.labels with
  | nil => simp
  | cons label rest => simp [exists_map_ok_iff, Value.written_ok_iff]

/--
Nothing obstructs a label: not its name, no term that is reached in its body,
and no placeholder of the text that its body gives.
-/
structure Unobstructed (localizer : Localizer) (id nouns arguments : Value) : Prop where
  /-- The name of the label can be written, or there is no label to compare it with. -/
  name : localizer.catalog.labels = [] ∨ id.isWritable = true
  /-- No term that is reached in the body is obstructed. -/
  terms : ∀ body, localizer.usableLabel id = .ok (some body) ->
    ∀ content term, body.Reaches (localizer.context nouns arguments).Enters content term ->
      ¬ (localizer.context nouns arguments).Obstructs content term
  /-- No placeholder of the text that the body gives is obstructed. -/
  slots : ∀ text digits, (localizer.unfilledText id nouns arguments).outcome = .ok text ->
    arguments ≠ .null -> Piece.slot digits ∈ Piece.scan text.toList ->
      ¬ arguments.ObstructsSlot digits

theorem unfilledText_succeeds_iff (localizer : Localizer) (id nouns arguments : Value) :
    (localizer.unfilledText id nouns arguments).Succeeds ↔
      (localizer.catalog.labels = [] ∨ id.isWritable = true) ∧
        ∀ body, localizer.usableLabel id = .ok (some body) ->
          ∀ content term, body.Reaches (localizer.context nouns arguments).Enters content term ->
            ¬ (localizer.context nouns arguments).Obstructs content term := by
  rw [unfilledText, Rendering.succeeds_lift_bind, ← usableLabel_ok_iff]
  cases localizer.usableLabel id with
  | error error => simp
  | ok found =>
      cases found with
      | none => simp
      | some body => simp [Context.bodyText_succeeds_iff]

/-- A label has a text exactly if nothing obstructs it. -/
theorem text_ok_iff (localizer : Localizer) (id nouns arguments : Value) :
    (∃ text, (localizer.text id nouns arguments).outcome = .ok text) ↔
      localizer.Unobstructed id nouns arguments := by
  have unfilled := localizer.unfilledText_succeeds_iff id nouns arguments
  have succeeds : (localizer.text id nouns arguments).Succeeds ↔
      ∃ text, (localizer.unfilledText id nouns arguments).outcome = .ok text ∧
        (arguments ≠ .null -> ∀ digits, Piece.slot digits ∈ Piece.scan text.toList ->
          ¬ arguments.ObstructsSlot digits) := by
    rw [Localizer.text, Rendering.succeeds_bind]
    simp only [fill, Rendering.succeeds_lift, fillPlaceholders_ok_iff]
  refine Iff.trans succeeds ⟨?_, ?_⟩
  · rintro ⟨text, rendered, clear⟩
    obtain ⟨name, terms⟩ := unfilled.mp ⟨text, rendered⟩
    refine ⟨name, terms, ?_⟩
    intro other digits alsoRendered given present
    obtain rfl : text = other := Except.ok.inj (rendered.symm.trans alsoRendered)
    exact clear given digits present
  · intro clear
    obtain ⟨text, rendered⟩ := unfilled.mpr ⟨clear.name, clear.terms⟩
    refine ⟨text, rendered, ?_⟩
    intro given digits present
    exact clear.slots text digits rendered given present

end Localizer

/-! ## What is missing -/

namespace Context

/--
What a context lacks leaves the empty text or the fallback of a phrase, and a
value that stands for no number has no category of its own.
-/
structure ToleratesGaps (context : Context) : Prop where
  /-- A noun that is unknown or lacks the form has the empty text. -/
  noun : ∀ ref neighbours found, context.nounOfTerm (.noun ref) = .ok found ->
    (found.bind fun noun => noun.form? ref.form) = none ->
      context.termText (.noun ref) neighbours = .pure ""
  /-- A modifier that points at no segment has the empty text, and asks for nothing. -/
  target : ∀ ref neighbours, Segment.pointedAt neighbours ref.target = .ok none ->
    context.termText (.modifier ref) neighbours = .pure ""
  /-- A modifier that is unknown or lacks the form asked for has the empty text. -/
  modifier : ∀ ref neighbours target request,
    Segment.pointedAt neighbours ref.target = .ok (some target) ->
      context.requestFor neighbours ref target = .ok request ->
        ((context.modifierOf ref).bind fun lexeme => lexeme.form? request.answer) = none ->
          context.termText (.modifier ref) neighbours = .ask request ""
  /-- A gender phrase without a variant for its key has the text of its fallback. -/
  gender : ∀ target fallback variants neighbours key,
    context.genderKey neighbours target = .ok key -> key.bind (Table.get? variants) = none ->
      context.termText (.gender target fallback variants) neighbours = context.bodyText fallback
  /-- A plural phrase without a variant for its key has the text of its fallback. -/
  plural : ∀ argument fallback variants neighbours key,
    context.pluralKey argument (hasVariant PluralCategory.zero.name variants) = .ok key ->
      Table.get? variants key = none ->
        context.termText (.plural argument fallback variants) neighbours =
          context.bodyText fallback
  /-- A value that stands for no number belongs to the category of everything else. -/
  value : ∀ value : Value, value.isUnwritableInteger = false -> value.decimal? = none ->
    context.grammar.categoryOf value = .ok .other

/-- Every context tolerates gaps. -/
theorem toleratesGaps (context : Context) : context.ToleratesGaps where
  noun ref neighbours found named formless := by
    rw [termText, nounText, named]
    simp [Except.map, nounWord, formless]
  target ref neighbours pointed := by
    rw [termText, modifierText, pointed]
    rfl
  modifier ref neighbours target request pointed asked formless := by
    have noWord : context.modifierWord ref request.answer = "" := by
      rw [modifierWord, formless]
    rw [termText, modifierText, pointed, Rendering.lift_ok, Rendering.pure_bind]
    dsimp only
    rw [asked, Rendering.lift_ok, Rendering.pure_bind, noWord]
  gender target fallback variants neighbours key keyed missing := by
    have chosen : context.chosenPhrase neighbours (.gender target fallback variants) =
        .ok (some fallback) := by
      simp [chosenPhrase, phraseKey, keyed, Except.map, Term.phraseFor, Term.variantFor, missing]
    rw [termText_eq, chosen]
    rfl
  plural argument fallback variants neighbours key keyed missing := by
    have chosen : context.chosenPhrase neighbours (.plural argument fallback variants) =
        .ok (some fallback) := by
      simp [chosenPhrase, phraseKey, keyed, Except.map, Term.phraseFor, Term.variantFor, missing]
    rw [termText_eq, chosen]
    rfl
  value value writable noNumber := by
    simp [Grammar.categoryOf, pluralCategory, Value.operands, writable, noNumber, bind,
      Except.bind, pure, Except.pure]

end Context

namespace Localizer

/--
A label renders to a text exactly if nothing obstructs it; a label that is
missing then gives the text for missing labels, what its body refers to in vain
the empty text or a fallback, and a placeholder without an argument itself.
-/
theorem text_succeeds_iff (localizer : Localizer) (id nouns arguments : Value) :
    ((∃ text, (localizer.text id nouns arguments).outcome = .ok text) ↔
      localizer.Unobstructed id nouns arguments) ∧
      (localizer.usableLabel id = .ok none ->
        localizer.unfilledText id nouns arguments = .pure localizer.missing) ∧
      (localizer.context nouns arguments).ToleratesGaps ∧
      ∀ digits, digits.length ≤ digitLimit ->
        arguments.entryAt? (Nat.ofDigitChars 10 digits 0) = none ->
          slotText arguments digits = .ok (Piece.slotChars digits) := by
  refine ⟨localizer.text_ok_iff id nouns arguments, ?_, Context.toleratesGaps _, ?_⟩
  · intro missing
    rw [unfilledText, missing]
    rfl
  · intro digits short nothing
    rw [slotText, checkDigitCount_of_le short, nothing]
    rfl

/-- A label that counts something by its only argument, with a fallback and nothing else. -/
def countedItems : Value :=
  .map [(.text "items", .list [.map [(.text "t", .text "p"), (.text "i", .integer 0),
    (.text "def", .text "items")]])]

/-- A short text that stands for a number with too many digits stops the rendering. -/
theorem text_fails_for_long_number :
    ((ofLocale {} (MergeCall.catalogAfter [.labels countedItems]) none).text (.text "items") .null
      (.list [.text "1e5000"])).outcome = .error (.tooManyDigits 5001) := by
  decide +kernel

end Localizer
end Concord
