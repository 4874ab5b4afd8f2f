import Concord.Proofs.Intake.Distinct
import Concord.Proofs.Intake.Record

/-!
# Terms that read back

A term that was read comes back when any record is read that it is written as,
under short or long names and at any depth.
-/

namespace Concord

theorem readText?_ofText? (content : Option String) :
    readText? (.ofText? content) = .ok content := by
  cases content <;> rfl

theorem readInteger?_ofInteger? (number : Option Int) :
    readInteger? (.ofInteger? number) = .ok number := by
  cases number <;> rfl

/-- Reading a body gives it back from any value that it is written as. -/
def Body.ReadsBack (body : Body) : Prop :=
  ∀ value, body.WrittenAs value -> Body.ofValue value = .ok body

/-- No body is written as an absent value. -/
theorem Body.WrittenAs.isNull_eq_false
    {body : Body}
    {value : Value}
    (written : body.WrittenAs value) :
    value.isNull = false := by
  cases written <;> rfl

theorem variantPairs_of_writtenAs
    {variants : List (String × Body)}
    {table : List (Value × Value)}
    (written : List.Forall₂ VariantWrittenAs variants table)
    (readsBack : ∀ phrase ∈ variants.map Prod.snd, phrase.ReadsBack) :
    variantPairs table = .ok variants := by
  induction written with
  | nil => rfl
  | cons first rest inductionHypothesis =>
      rw [List.map_cons, List.forall_mem_cons] at readsBack
      obtain ⟨bodyWritten⟩ := first
      have read := readsBack.1 _ bodyWritten
      rw [variantPairs_cons, bodyWritten.isNull_eq_false, inductionHypothesis readsBack.2, read]
      rfl

/-- A segment is read back if the term in it is. -/
theorem Segment.ofValue_of_writtenAs
    {segment : Segment}
    {item : Value}
    (written : segment.WrittenAs item)
    (readsBack : ∀ term, segment = .term term -> term.WrittenAs item ->
      Term.ofValue item = .ok term) :
    Segment.ofValue item = .ok segment := by
  cases written with
  | gap | text content | tag kind => rfl
  | term written =>
      have noPlain : Segment.plain? item = none := by cases written <;> rfl
      rw [Segment.ofValue, noPlain]
      dsimp only
      rw [readsBack _ rfl written]
      rfl

/-- Segments are read back if all terms among them are. -/
theorem segmentsOf_of_writtenAs
    {content : List Segment}
    {items : List Value}
    (written : List.Forall₂ Segment.WrittenAs content items)
    (readsBack : ∀ term, Segment.term term ∈ content ->
      ∀ record, term.WrittenAs record -> Term.ofValue record = .ok term) :
    segmentsOf items = .ok content := by
  rw [segmentsOf_eq_ok_iff]
  induction written with
  | nil => exact .nil
  | cons first rest inductionHypothesis =>
      refine .cons (Segment.ofValue_of_writtenAs first ?_) (inductionHypothesis ?_)
      · rintro term rfl
        exact readsBack term List.mem_cons_self _
      · intro term present
        exact readsBack term (List.mem_cons_of_mem _ present)

theorem fieldGives_fallback
    {entries : List (Value × Value)}
    {fallback : Body}
    {value : Value}
    (held : fieldValue? entries "def" "default" = some value)
    (written : fallback.WrittenAs value)
    (readsBack : fallback.ReadsBack) :
    FieldGives entries "def" "default" (.text "") Body.ofValue fallback :=
  fieldGives_of_fieldValue? held (readsBack value written)

/-- A field of variants gives back those whose phrases are read back. -/
theorem fieldGives_variants
    {entries table : List (Value × Value)}
    {variants : List (String × Body)}
    (held : fieldValue? entries "v" "forms" = some (.map table))
    (written : List.Forall₂ VariantWrittenAs variants table)
    (distinct : (Table.keys variants).Nodup)
    (readsBack : ∀ phrase ∈ variants.map Prod.snd, phrase.ReadsBack) :
    FieldGives entries "v" "forms" [] variantTable variants := by
  refine fieldGives_of_fieldValue? held ?_
  rw [variantTable_eq_ok_iff]
  exact .inr ⟨table, variants, rfl, variantPairs_of_writtenAs written readsBack,
    Table.ofPairs_of_nodup distinct⟩

/-- A term whose phrases read back reads back. -/
theorem Term.ofValue_of_writtenAs
    {term : Term}
    {record : Value}
    (distinct : term.HasDistinctKeys)
    (readsBack : ∀ phrase ∈ term.phrases, phrase.ReadsBack)
    (written : term.WrittenAs record) :
    Term.ofValue record = .ok term := by
  cases written with
  | noun kind name form capitalized argument =>
      refine Term.ofValue_of_isReadFrom ⟨⟨_, kind, rfl⟩, ?_, ?_, ?_, ?_⟩
      · exact fieldGives_of_fieldValue? name (readText?_ofText? _)
      · exact fieldGives_of_fieldValue? form (readText?_ofText? _)
      · exact fieldGives_of_fieldValue? capitalized rfl
      · exact fieldGives_of_fieldValue? argument (readInteger?_ofInteger? _)
  | modifier kind name form capitalized target follower =>
      refine Term.ofValue_of_isReadFrom ⟨⟨_, kind, rfl⟩, ?_, ?_, ?_, ?_, ?_⟩
      · exact fieldGives_of_fieldValue? name (readText?_ofText? _)
      · exact fieldGives_of_fieldValue? form (readText?_ofText? _)
      · exact fieldGives_of_fieldValue? capitalized rfl
      · exact fieldGives_of_fieldValue? target (readInteger?_ofInteger? _)
      · exact fieldGives_of_fieldValue? follower (readInteger?_ofInteger? _)
  | counter kind targetHeld =>
      refine Term.ofValue_of_isReadFrom ⟨⟨_, kind, rfl⟩, ?_⟩
      exact fieldGives_of_fieldValue? targetHeld (readInteger?_ofInteger? _)
  | gender kind targetHeld fallbackHeld variantsHeld fallbackWritten variantsWritten =>
      obtain ⟨fallbackBack, variantsBack⟩ := List.forall_mem_cons.mp readsBack
      refine Term.ofValue_of_isReadFrom ⟨⟨_, kind, rfl⟩, ?_, ?_, ?_⟩
      · exact fieldGives_of_fieldValue? targetHeld (readInteger?_ofInteger? _)
      · exact fieldGives_fallback fallbackHeld fallbackWritten fallbackBack
      · exact fieldGives_variants variantsHeld variantsWritten distinct variantsBack
  | plural kind argumentHeld fallbackHeld variantsHeld fallbackWritten variantsWritten =>
      obtain ⟨fallbackBack, variantsBack⟩ := List.forall_mem_cons.mp readsBack
      refine Term.ofValue_of_isReadFrom ⟨⟨_, kind, rfl⟩, ?_, ?_, ?_⟩
      · exact fieldGives_of_fieldValue? argumentHeld (readInteger?_ofInteger? _)
      · exact fieldGives_fallback fallbackHeld fallbackWritten fallbackBack
      · exact fieldGives_variants variantsHeld variantsWritten distinct variantsBack
  | bare kind => rfl

/-- A body whose variants have keys of their own reads back. -/
theorem Body.readsBack
    {body : Body}
    (distinct : body.HasDistinctKeys) :
    body.ReadsBack := by
  -- The induction follows the body and not the value, since a body is written in many ways.
  induction body with
  | text content =>
      rintro value ⟨⟩
      rfl
  | tag kind =>
      rintro value ⟨⟩
      rfl
  | segments content inductionHypothesis =>
      intro value written
      rw [hasDistinctKeys_segments] at distinct
      cases written with
      | segments each =>
          rw [Body.ofValue, segmentsOf_of_writtenAs each]
          · rfl
          intro term present record written
          have termDistinct := distinct term present
          refine Term.ofValue_of_writtenAs termDistinct.own ?_ written
          intro phrase inTerm
          exact inductionHypothesis term present phrase inTerm (termDistinct.inside phrase inTerm)

/--
A term that was read from a value without terms in it is read again from every
record that it is written as, and the record of its short names is one of them.
-/
theorem Term.ofValue_record
    {raw : Value}
    {term : Term}
    (unread : raw.isUnread = true)
    (read : Term.ofValue raw = .ok term) :
    term.WrittenAs term.toRecord ∧
      Term.ofValue term.toRecord = .ok term ∧
      ∀ record, term.WrittenAs record -> Term.ofValue record = .ok term := by
  have distinct := (raw.givesDistinctKeys unread).term term read
  have readsBack (record : Value) (written : term.WrittenAs record) :
      Term.ofValue record = .ok term := by
    refine Term.ofValue_of_writtenAs distinct.own ?_ written
    intro phrase inTerm
    exact Body.readsBack (distinct.inside phrase inTerm)
  exact ⟨term.writtenAs_toRecord, readsBack _ term.writtenAs_toRecord, readsBack⟩

/-- A plural phrase with a gender phrase among the segments of its variant. -/
def nestedPhrase : Term :=
  .plural (some 1) (.text "") [
    ("one", .segments [
      .text "for ", .gap, .term (.gender (some 0) (.text "it") [("f", .text "her")])])]

/-- A value that it is read from, with a number in digits and a variant of nothing. -/
def rawPhrase : Value :=
  .map [
    (.text "t", .text "p"),
    (.text "i", .text " 1 "),
    (.text "v", .map [
      (.text "few", .null),
      (.text "one", .list [.text "for ", .null, .map [
        (.text "an", .integer 0), (.text "def", .text "it"), (.text "t", .text "g"),
        (.text "v", .map [(.text "f", .text "her")])]])])]

/-- A record that it is written as, with long names and keys of no meaning at both depths. -/
def wordyRecord : Value :=
  .map [
    (.text "comment", .list [.map []]),
    (.text "forms", .map [
      (.text "one", .list [.text "for ", .null, .map [
        (.text "t", .text "g"), (.text "l", .integer 3), (.text "associated_noun", .integer 0),
        (.text "default", .text "it"), (.text "v", .map [(.text "f", .text "her")])]])]),
    (.text "t", .text "p"),
    (.text "index", .integer 1),
    (.text "def", .text "")]

theorem Term.ofValue_record_nestedPhrase :
    rawPhrase.isUnread = true ∧ Term.ofValue rawPhrase = .ok nestedPhrase ∧
      Term.ofValue wordyRecord = .ok nestedPhrase := by
  have unread : rawPhrase.isUnread = true := rfl
  have read : Term.ofValue rawPhrase = .ok nestedPhrase := rfl
  have written : nestedPhrase.WrittenAs wordyRecord := by
    refine .plural rfl rfl rfl rfl (.text "") (.cons (.pair (.segments ?_)) .nil)
    refine .cons (.text "for ") (.cons .gap (.cons (.term ?_) .nil))
    exact .gender rfl rfl rfl rfl (.text "it") (.cons (.pair (.text "her")) .nil)
  exact ⟨unread, read, (Term.ofValue_record unread read).2.2 wordyRecord written⟩

end Concord
