import Concord.Proofs.Agreement.Capitals
import Concord.Proofs.Rendering.Neighbourhood

/-!
# Flags for capitals

A reference to a word may say that the word keeps its capital inside a sentence.
Such flags have no effect where words keep their capitals anyway: on all words
if the grammar leaves capitals alone, and on nouns in German.  In every other
grammar they do make a difference.
-/

namespace Concord

/-- A rewriting of words that changes their flags for capitals and nothing else. -/
structure WordMap.ChangesFlags (words : WordMap) : Prop where
  /-- A noun keeps all but its flag. -/
  noun : ∀ ref, ∃ capitalized, words.noun ref = { ref with capitalized := capitalized }
  /-- A modifier keeps all but its flag. -/
  modifier : ∀ ref, ∃ capitalized, words.modifier ref = { ref with capitalized := capitalized }

/-- Take the flags for capitals from nouns. -/
def WordMap.nounsUnflagged : WordMap where
  noun ref := { ref with capitalized := false }
  modifier ref := ref

/-- Take the flags for capitals from all words. -/
def WordMap.unflagged : WordMap where
  noun ref := { ref with capitalized := false }
  modifier ref := { ref with capitalized := false }

theorem WordMap.nounsUnflagged_changesFlags : WordMap.nounsUnflagged.ChangesFlags where
  noun _ := ⟨false, rfl⟩
  modifier ref := ⟨ref.capitalized, rfl⟩

theorem WordMap.unflagged_changesFlags : WordMap.unflagged.ChangesFlags where
  noun _ := ⟨false, rfl⟩
  modifier _ := ⟨false, rfl⟩

/-- Two bodies that differ at most in the flags of nouns, at any depth. -/
def Body.SameButNounFlags (body other : Body) : Prop :=
  body.mapWords .nounsUnflagged = other.mapWords .nounsUnflagged

/-- Two bodies that differ at most in the flags of words, at any depth. -/
def Body.SameButFlags (body other : Body) : Prop :=
  body.mapWords .unflagged = other.mapWords .unflagged

namespace Context

variable {context : Context} {words : WordMap}

/-- Flags for capitals do not show to terms that point at a word. -/
theorem looksAlike_of_changesFlags
    (flags : words.ChangesFlags)
    (segment : Segment) :
    context.LooksAlike context segment (segment.mapWords words) := by
  cases segment with
  | gap | text content | tag kind => exact ⟨⟨rfl, rfl⟩, rfl⟩
  | term term =>
      cases term with
      | noun ref =>
          obtain ⟨capitalized, flagged⟩ := flags.noun ref
          rw [Segment.mapWords, Term.mapWords, flagged]
          exact ⟨⟨rfl, rfl⟩, rfl⟩
      | modifier ref =>
          obtain ⟨capitalized, flagged⟩ := flags.modifier ref
          rw [Segment.mapWords, Term.mapWords, flagged]
          exact ⟨⟨rfl, rfl⟩, rfl⟩
      | gender target fallback variants | plural argument fallback variants | counter target
      | bare kind => exact ⟨⟨rfl, rfl⟩, rfl⟩

/-- Flags for capitals that change no word leave the text of a body as it is. -/
theorem bodyText_of_changesFlags
    (context : Context)
    (flags : words.ChangesFlags)
    (sameNoun : ∀ ref, context.nounWord (words.noun ref) = context.nounWord ref)
    (sameModifier : ∀ ref, context.modifierWord (words.modifier ref) = context.modifierWord ref)
    (body : Body) :
    context.bodyText body = context.bodyText (body.mapWords words) := by
  apply bodyText_eq_of_seesAlike rfl
  intro content term _
  apply seesAlike_of_looksAlike
  · cases term with
    | noun ref =>
        obtain ⟨capitalized, flagged⟩ := flags.noun ref
        have sameLexeme : context.nounOfTerm (.noun (words.noun ref)) =
            context.nounOfTerm (.noun ref) := by
          rw [flagged]
          rfl
        rw [SameByItself, nounText, nounText, sameLexeme, sameNoun ref]
    | modifier ref =>
        obtain ⟨capitalized, flagged⟩ := flags.modifier ref
        exact ⟨⟨ref.name, capitalized, flagged⟩, sameModifier ref⟩
    | plural argument fallback variants => rfl
    | gender target fallback variants | counter target | bare kind => trivial
  · exact fun segment _ => looksAlike_of_changesFlags flags segment

/-- A grammar that leaves nouns alone has one word for a noun with or without a flag. -/
theorem nounWord_of_kept
    (kept : ∀ word, context.grammar.insideNoun word = word)
    (ref : NounTerm)
    (capitalized : Bool) :
    context.nounWord { ref with capitalized := capitalized } = context.nounWord ref := by
  funext noun
  simp only [nounWord, kept, ite_self]

/-- A grammar that leaves modifiers alone has one word for a modifier with or without a flag. -/
theorem modifierWord_of_kept
    (kept : ∀ word, context.grammar.insideModifier word = word)
    (ref : ModifierTerm)
    (capitalized : Bool) :
    context.modifierWord { ref with capitalized := capitalized } = context.modifierWord ref := by
  funext answer
  simp only [modifierWord, modifierOf, kept, ite_self]

/-- Where nouns keep their capitals anyway, bodies that differ in flags of nouns render alike. -/
theorem bodyText_of_sameButNounFlags
    (kept : context.grammar.family.capitalizesNouns = true ∨ context.grammar.keepsCase = true)
    {body other : Body}
    (same : body.SameButNounFlags other) :
    context.bodyText body = context.bodyText other := by
  have unflagged := context.bodyText_of_changesFlags WordMap.nounsUnflagged_changesFlags
    (fun ref => nounWord_of_kept (Grammar.insideNoun_eq_self kept) ref false) (fun _ => rfl)
  rw [unflagged body, same, ← unflagged other]

/-- Where all words keep their capitals anyway, bodies that differ in flags render alike. -/
theorem bodyText_of_sameButFlags
    (kept : context.grammar.keepsCase = true)
    {body other : Body}
    (same : body.SameButFlags other) :
    context.bodyText body = context.bodyText other := by
  have unflagged := context.bodyText_of_changesFlags WordMap.unflagged_changesFlags
    (fun ref => nounWord_of_kept (Grammar.insideNoun_eq_self (.inr kept)) ref false)
    (fun ref => modifierWord_of_kept (Grammar.insideModifier_eq_self kept) ref false)
  rw [unflagged body, same, ← unflagged other]

end Context

/-! ## Flags that matter -/

/-- A noun and an adjective, each of them a single letter. -/
def Catalog.singleLetters : Catalog where
  tables := [
    (.noun, [("a", ⟨some "a", [("1", "A")], none, .noun none none⟩)]),
    (.adjective, [("a", ⟨some "a", [("1", "A"), ("c", "A")], none, .modifier⟩)])]
  labels := []

/-- The noun, with or without a flag. -/
def Body.nounLetter (capitalized : Bool) : Body :=
  .segments [.term (.noun ⟨some "a", some "1", capitalized, none⟩)]

/-- The adjective, with or without a flag, and something to agree with that is no noun. -/
def Body.adjectiveLetter (capitalized : Bool) : Body :=
  .segments [
    .term (.modifier ⟨.adjective, some "a", some "1", capitalized, some 1, some 1⟩), .text ""]

namespace Grammar

variable (grammar : Grammar) (capitalized : Bool)

/-- The grammar at work on single letters. -/
def onLetters : Context :=
  ⟨.singleLetters, grammar, .null, .null⟩

theorem outcome_nounLetter :
    (grammar.onLetters.bodyText (.nounLetter capitalized)).outcome =
      .ok (if capitalized then "A" else grammar.insideNoun "A") := by
  have spelled : (grammar.onLetters.bodyText (.nounLetter capitalized)).outcome =
      .ok ((if capitalized then "A" else grammar.insideNoun "A") ++ "") := by
    cases capitalized <;> rfl
  rw [spelled, String.append_empty]

theorem outcome_adjectiveLetter :
    (grammar.onLetters.bodyText (.adjectiveLetter capitalized)).outcome =
      .ok (if capitalized then "A" else grammar.insideModifier "A") := by
  have spelled : (grammar.onLetters.bodyText (.adjectiveLetter capitalized)).outcome =
      .ok ((if capitalized then "A" else grammar.insideModifier "A") ++ ("" ++ "")) := by
    -- Every family agrees on one of the two forms.
    obtain ⟨family, locale, keepsCase, counterWord⟩ := grammar
    cases capitalized <;> cases family <;> rfl
  rw [spelled, String.append_empty, String.append_empty]

/--
Flags for capitals have no effect, at any depth of a body, exactly if the grammar
keeps the case of all words; those of nouns have none exactly if it does so or
is German.
-/
theorem flags_ignored_iff :
    ((∀ catalog nouns arguments body other, Body.SameButFlags body other ->
        (Context.mk catalog grammar nouns arguments).bodyText body =
          (Context.mk catalog grammar nouns arguments).bodyText other) ↔
      grammar.keepsCase = true) ∧
    ((∀ catalog nouns arguments body other, Body.SameButNounFlags body other ->
        (Context.mk catalog grammar nouns arguments).bodyText body =
          (Context.mk catalog grammar nouns arguments).bodyText other) ↔
      grammar.family = .german ∨ grammar.keepsCase = true) := by
  refine ⟨⟨?_, ?_⟩, ⟨?_, ?_⟩⟩
  · intro ignored
    have same : grammar.onLetters.bodyText (.adjectiveLetter true) =
        grammar.onLetters.bodyText (.adjectiveLetter false) := ignored _ _ _ _ _ rfl
    have sameText := congrArg Rendering.outcome same
    rw [outcome_adjectiveLetter, outcome_adjectiveLetter] at sameText
    exact kept_of_insideModifier (Except.ok.inj sameText).symm
  · intro kept catalog nouns arguments body other sameBut
    exact Context.bodyText_of_sameButFlags kept sameBut
  · intro ignored
    have same : grammar.onLetters.bodyText (.nounLetter true) =
        grammar.onLetters.bodyText (.nounLetter false) := ignored _ _ _ _ _ rfl
    have sameText := congrArg Rendering.outcome same
    rw [outcome_nounLetter, outcome_nounLetter] at sameText
    rw [← AgreementFamily.capitalizesNouns_iff]
    exact kept_of_insideNoun (Except.ok.inj sameText).symm
  · intro kept catalog nouns arguments body other sameBut
    rw [← AgreementFamily.capitalizesNouns_iff] at kept
    exact Context.bodyText_of_sameButNounFlags kept sameBut

/-- A noun of a German phrase needs no flag, and no word of a Japanese label needs one. -/
theorem flags_ignored_iff_german :
    (ofLocale {} (some (.text "de"))).onLetters.bodyText
        (.segments [.term (.gender none (.nounLetter true) [])]) =
      (ofLocale {} (some (.text "de"))).onLetters.bodyText
        (.segments [.term (.gender none (.nounLetter false) [])]) ∧
    (ofLocale {} (some (.text "ja"))).onLetters.bodyText (.adjectiveLetter true) =
      (ofLocale {} (some (.text "ja"))).onLetters.bodyText (.adjectiveLetter false) := by
  have german : (ofLocale {} (some (.text "de"))).family = .german := by decide +kernel
  have japanese : (ofLocale {} (some (.text "ja"))).keepsCase = true := by decide +kernel
  obtain ⟨-, inGerman⟩ := flags_ignored_iff (ofLocale {} (some (.text "de")))
  obtain ⟨inJapanese, -⟩ := flags_ignored_iff (ofLocale {} (some (.text "ja")))
  exact ⟨inGerman.mpr (.inl german) _ _ _ _ _ rfl, inJapanese.mpr japanese _ _ _ _ _ rfl⟩

end Grammar
end Concord
