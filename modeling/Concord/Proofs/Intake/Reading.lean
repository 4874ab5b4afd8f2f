import Concord.Proofs.Intake.Nesting
import Mathlib.Data.List.Forall2

/-!
# What is read

A record is read as a term field by field, a list as a body item by item and a
mapping as variants entry by entry.  The statements here say what each reading
gives in terms of the readings of the values inside.
-/

namespace Concord

theorem exceptMap_eq_ok_iff {α β ε : Type}
    {change : α -> β}
    {outcome : Except ε α}
    {result : β} :
    outcome.map change = .ok result ↔ ∃ value, outcome = .ok value ∧ change value = result := by
  cases outcome <;> simp [Except.map]

/-- A list has a counterpart, element by element, exactly if each element has one. -/
theorem exists_forall₂_iff {α β : Type} {relation : α -> β -> Prop} {items : List α} :
    (∃ others, List.Forall₂ relation items others) ↔
      ∀ item ∈ items, ∃ other, relation item other := by
  induction items with
  | nil => simp
  | cons item rest inductionHypothesis =>
      rw [List.forall_mem_cons, ← inductionHypothesis]
      constructor
      · rintro ⟨others, matched⟩
        obtain ⟨other, matchedRest, related, restRelated, rfl⟩ :=
          List.forall₂_cons_left_iff.mp matched
        exact ⟨⟨other, related⟩, ⟨matchedRest, restRelated⟩⟩
      · rintro ⟨⟨other, related⟩, ⟨others, restRelated⟩⟩
        exact ⟨other :: others, .cons related restRelated⟩

/-- Every element of a counterpart has an element that it is the counterpart of. -/
theorem exists_left_of_forall₂ {α β : Type}
    {relation : α -> β -> Prop}
    {items : List α}
    {others : List β}
    {other : β}
    (matched : List.Forall₂ relation items others)
    (present : other ∈ others) :
    ∃ item ∈ items, relation item other := by
  induction matched with
  | nil => cases present
  | cons related _ inductionHypothesis =>
      rcases List.mem_cons.mp present with rfl | later
      · exact ⟨_, List.mem_cons_self, related⟩
      · obtain ⟨item, inRest, relatedLater⟩ := inductionHypothesis later
        exact ⟨item, List.mem_cons_of_mem _ inRest, relatedLater⟩

/-! ## Fields -/

/-- The value of a field, which counts under its short name before its long one. -/
def fieldValue? (entries : List (Value × Value)) (short long : String) : Option Value :=
  (Value.find? entries (.text short)).or (Value.find? entries (.text long))

theorem mem_parts_of_fieldValue?
    {entries : List (Value × Value)}
    {short long : String}
    {value : Value}
    (held : fieldValue? entries short long = some value) :
    value ∈ (Value.map entries).parts := by
  rcases Option.or_eq_some_iff.mp held with found | ⟨_, found⟩
  · exact Value.mem_parts_of_find? found
  · exact Value.mem_parts_of_find? found

section

variable {α ε : Type} {entries : List (Value × Value)} {short long : String} {default result : α}

/-- What a record gives for a field: what is read from its value, or a default without one. -/
def FieldGives (entries : List (Value × Value)) (short long : String) (default : α)
    (read : Value -> Except ε α) (result : α) : Prop :=
  match fieldValue? entries short long with
  | none => result = default
  | some value => read value = .ok result

/-- A field that is there gives what is read from its value. -/
theorem fieldGives_of_fieldValue?
    {read : Value -> Except ε α}
    {value : Value}
    (held : fieldValue? entries short long = some value)
    (reads : read value = .ok result) :
    FieldGives entries short long default read result := by
  rw [FieldGives, held]
  exact reads

/-- What a field gives is its default or was read from one of the parts of the record. -/
theorem FieldGives.default_or_read
    {read : Value -> Except ε α}
    (given : FieldGives entries short long default read result) :
    result = default ∨ ∃ value ∈ (Value.map entries).parts, read value = .ok result := by
  unfold FieldGives at given
  cases held : fieldValue? entries short long with
  | none =>
      rw [held] at given
      exact .inl given
  | some value =>
      rw [held] at given
      exact .inr ⟨value, mem_parts_of_fieldValue? held, given⟩

/-- A field gives something exactly if it is left out or its value can be read. -/
theorem exists_fieldGives_iff (read : Value -> Except ε α) :
    (∃ result, FieldGives entries short long default read result) ↔
      ∀ value, fieldValue? entries short long = some value ->
        ∃ result, read value = .ok result := by
  unfold FieldGives
  cases fieldValue? entries short long with
  | none => simp
  | some value => simp

/-- Reading a field succeeds with what the field gives and with nothing else. -/
theorem readField_eq_ok_iff (read : Value -> Except FieldFault α) :
    readField entries short long default read = .ok result ↔
      FieldGives entries short long default read result := by
  unfold readField field? FieldGives fieldValue?
  cases Value.find? entries (.text short) with
  | some value => cases outcome : read value <;> simp [outcome]
  | none =>
      cases Value.find? entries (.text long) with
      | some value => cases outcome : read value <;> simp [outcome]
      | none => simpa using eq_comm

theorem Reading.asField_eq_ok_iff (name : String) (reading : Reading α) :
    reading.asField name = .ok (.ok result) ↔ reading = .ok result := by
  cases reading with
  | ok read => simp [asField]
  | error fault => cases fault <;> simp [asField]

/-- Of two readings of a field the one under the short name counts, as in the field itself. -/
theorem preferred_eq_ok_iff (read : Value -> Reading α) :
    preferred short long ((Value.find? entries (.text short)).map read)
        ((Value.find? entries (.text long)).map read) default = .ok (.ok result) ↔
      FieldGives entries short long default read result := by
  unfold FieldGives fieldValue?
  cases Value.find? entries (.text short) with
  | some value => exact Reading.asField_eq_ok_iff short (read value)
  | none =>
      cases Value.find? entries (.text long) with
      | some value => exact Reading.asField_eq_ok_iff long (read value)
      | none => simpa [preferred] using eq_comm

end

/-- Two checks together succeed exactly if each does. -/
theorem Checked.both_eq_ok_iff {α β : Type}
    {first : Checked α}
    {second : Checked β}
    {left : α}
    {right : β} :
    first.both second = .ok (left, right) ↔ first = .ok left ∧ second = .ok right := by
  cases first <;> cases second <;> simp [both]

/-- A record is accepted exactly if its check succeeds. -/
theorem Checked.orRefuse_eq_ok_iff {α : Type}
    {kind : TermKind}
    {entries : List (Value × Value)}
    {checked : Checked α}
    {result : α} :
    checked.orRefuse kind entries = .ok result ↔ checked = .ok result := by
  cases checked <;> simp [orRefuse]

theorem readPhrase_eq_ok_iff
    {kind : TermKind}
    {entries : List (Value × Value)}
    {position : Checked (Option Int)}
    {fallback : Reading (Checked Body)}
    {variants : Reading (Checked (List (String × Body)))}
    {index : Option Int}
    {body : Body}
    {table : List (String × Body)} :
    readPhrase kind entries position fallback variants = .ok (index, body, table) ↔
      position = .ok index ∧ fallback = .ok (.ok body) ∧ variants = .ok (.ok table) := by
  unfold readPhrase
  cases fallback with
  | error fault => simp [bind, Except.bind]
  | ok fallback =>
      cases variants with
      | error fault => simp [bind, Except.bind]
      | ok variants =>
          simp [bind, Except.bind, Checked.orRefuse_eq_ok_iff, Checked.both_eq_ok_iff]

/-! ## Kinds -/

/-- A record names a kind by its letter. -/
def NamesKind (entries : List (Value × Value)) (kind : TermKind) : Prop :=
  ∃ value, Value.find? entries (.text "t") = some value ∧ value.text? = some kind.letter

/-- A value names the kind whose letter it is. -/
theorem TermKind.named?_eq_some_iff {value : Value} {kind : TermKind} :
    named? value = some kind ↔ value.text? = some kind.letter := by
  cases value with
  | text letter =>
      rw [named?, Value.text?, Option.some.injEq]
      constructor
      · intro found
        exact (letter_of_ofLetter? found).symm
      · rintro rfl
        exact ofLetter?_letter kind
  | tag other => cases other <;> cases kind <;> simp [named?, Value.text?, letter]
  | _ => simp [named?, Value.text?]

/-- A kind is read from its letter and from nothing else. -/
theorem TermKind.ofValue_eq_ok_iff {value : Value} {kind : TermKind} :
    ofValue value = .ok kind ↔ value.text? = some kind.letter := by
  rw [← named?_eq_some_iff, ofValue]
  cases named? value with
  | some other => simp
  | none => cases value.isWritable <;> simp

theorem recordKind_eq_ok_iff {entries : List (Value × Value)} {kind : TermKind} :
    recordKind entries = .ok kind ↔ NamesKind entries kind := by
  rw [recordKind, TermKind.ofValue_eq_ok_iff, NamesKind]
  cases Value.find? entries (.text "t") with
  | none => simp [Value.text?]
  | some value => simp

/-- A record names one kind at most. -/
theorem NamesKind.unique
    {entries : List (Value × Value)}
    {left right : TermKind}
    (namesLeft : NamesKind entries left)
    (namesRight : NamesKind entries right) :
    left = right := by
  rw [← recordKind_eq_ok_iff] at namesLeft namesRight
  exact Except.ok.inj (namesLeft.symm.trans namesRight)

/-! ## Bodies under keys -/

theorem bodyUnder?_eq (key : String) (entries : List (Value × Value)) :
    bodyUnder? key entries = (Value.find? entries (.text key)).map Body.ofValue := by
  induction entries with
  | nil => rfl
  | cons entry rest inductionHypothesis =>
      obtain ⟨name, value⟩ := entry
      rw [bodyUnder?, inductionHypothesis, Value.find?, Value.find?, List.find?_cons]
      cases Value.sameKey (.text key) name <;> rfl

theorem variantsUnder?_eq (key : String) (entries : List (Value × Value)) :
    variantsUnder? key entries = (Value.find? entries (.text key)).map variantTable := by
  induction entries with
  | nil => rfl
  | cons entry rest inductionHypothesis =>
      obtain ⟨name, value⟩ := entry
      rw [variantsUnder?, inductionHypothesis, Value.find?, Value.find?, List.find?_cons]
      cases Value.sameKey (.text key) name <;> rfl

/-! ## Terms -/

/-- A noun reference is read exactly if each of its fields gives what stands in it. -/
theorem NounTerm.ofEntries_eq_ok_iff {entries : List (Value × Value)} {ref : NounTerm} :
    NounTerm.ofEntries entries = .ok ref ↔
      FieldGives entries "l" "name" none readText? ref.name ∧
        FieldGives entries "f" "form" none readText? ref.form ∧
        FieldGives entries "c" "capitalize" false readTruth ref.capitalized ∧
        FieldGives entries "i" "index" none readInteger? ref.argument := by
  obtain ⟨name, form, capitalized, argument⟩ := ref
  simp only [← readField_eq_ok_iff]
  unfold ofEntries
  dsimp only
  split
  · simp_all
  · rename_i incomplete
    refine ⟨nofun, ?_⟩
    rintro ⟨named, formed, spelled, placed⟩
    exact (incomplete _ _ _ _ named formed spelled placed).elim

theorem ModifierTerm.ofEntries_eq_ok_iff
    {kind : ModifierKind}
    {entries : List (Value × Value)}
    {ref : ModifierTerm} :
    ModifierTerm.ofEntries kind entries = .ok ref ↔
      kind = ref.kind ∧
        FieldGives entries "l" "name" none readText? ref.name ∧
        FieldGives entries "f" "form" none readText? ref.form ∧
        FieldGives entries "c" "capitalize" false readTruth ref.capitalized ∧
        FieldGives entries "an" "associated_noun" none readInteger? ref.target ∧
        FieldGives entries "nt" "next_term" none readInteger? ref.follower := by
  obtain ⟨otherKind, name, form, capitalized, target, follower⟩ := ref
  simp only [← readField_eq_ok_iff]
  unfold ofEntries
  dsimp only
  split
  · simp_all
  · rename_i incomplete
    refine ⟨nofun, ?_⟩
    rintro ⟨_, named, formed, spelled, aimed, followed⟩
    exact (incomplete _ _ _ _ _ named formed spelled aimed followed).elim

/-- What the fields of a record give is a term of the kind that the record names. -/
def Term.IsReadFrom (entries : List (Value × Value)) : Term -> Prop
  | .noun ref =>
      NamesKind entries .noun ∧
        FieldGives entries "l" "name" none readText? ref.name ∧
        FieldGives entries "f" "form" none readText? ref.form ∧
        FieldGives entries "c" "capitalize" false readTruth ref.capitalized ∧
        FieldGives entries "i" "index" none readInteger? ref.argument
  | .modifier ref =>
      NamesKind entries ref.kind.toTermKind ∧
        FieldGives entries "l" "name" none readText? ref.name ∧
        FieldGives entries "f" "form" none readText? ref.form ∧
        FieldGives entries "c" "capitalize" false readTruth ref.capitalized ∧
        FieldGives entries "an" "associated_noun" none readInteger? ref.target ∧
        FieldGives entries "nt" "next_term" none readInteger? ref.follower
  | .gender target fallback variants =>
      NamesKind entries .gender ∧
        FieldGives entries "an" "associated_noun" none readInteger? target ∧
        FieldGives entries "def" "default" (.text "") Body.ofValue fallback ∧
        FieldGives entries "v" "forms" [] variantTable variants
  | .plural argument fallback variants =>
      NamesKind entries .plural ∧
        FieldGives entries "i" "index" none readInteger? argument ∧
        FieldGives entries "def" "default" (.text "") Body.ofValue fallback ∧
        FieldGives entries "v" "forms" [] variantTable variants
  | .counter target =>
      NamesKind entries .counter ∧
        FieldGives entries "an" "associated_noun" none readInteger? target
  | .bare _ => False

theorem readTarget_eq_ok_iff {entries : List (Value × Value)} {target : Option Int} :
    readTarget entries = .ok target ↔
      FieldGives entries "an" "associated_noun" none readInteger? target :=
  readField_eq_ok_iff readInteger?

theorem readArgument_eq_ok_iff {entries : List (Value × Value)} {argument : Option Int} :
    readArgument entries = .ok argument ↔
      FieldGives entries "i" "index" none readInteger? argument :=
  readField_eq_ok_iff readInteger?

/-- A phrase is read as its position, its fallback and its variants. -/
theorem readPhrase_fields_eq_ok_iff
    {kind : TermKind}
    {entries : List (Value × Value)}
    {position : Checked (Option Int)}
    {index : Option Int}
    {fallback : Body}
    {variants : List (String × Body)} :
    readPhrase kind entries position
        (preferred "def" "default" (bodyUnder? "def" entries) (bodyUnder? "default" entries)
          (.text ""))
        (preferred "v" "forms" (variantsUnder? "v" entries) (variantsUnder? "forms" entries) []) =
          .ok (index, fallback, variants) ↔
      position = .ok index ∧
        FieldGives entries "def" "default" (.text "") Body.ofValue fallback ∧
        FieldGives entries "v" "forms" [] variantTable variants := by
  simp only [readPhrase_eq_ok_iff, bodyUnder?_eq, variantsUnder?_eq, preferred_eq_ok_iff]

/-- Reading a record as a term gives one whose fields the record holds. -/
theorem Term.isReadFrom_of_ofValue
    {entries : List (Value × Value)}
    {term : Term}
    (read : Term.ofValue (.map entries) = .ok term) :
    term.IsReadFrom entries := by
  rw [Term.ofValue] at read
  cases named : recordKind entries with
  | error fault =>
      rw [named] at read
      cases read
  | ok kind =>
      rw [named] at read
      have namesKind := recordKind_eq_ok_iff.mp named
      cases kind with
      | noun =>
          obtain ⟨ref, checked, rfl⟩ := exceptMap_eq_ok_iff.mp read
          exact ⟨namesKind, NounTerm.ofEntries_eq_ok_iff.mp (Checked.orRefuse_eq_ok_iff.mp checked)⟩
      | adjective | article =>
          obtain ⟨ref, checked, rfl⟩ := exceptMap_eq_ok_iff.mp read
          obtain ⟨sameKind, fields⟩ :=
            ModifierTerm.ofEntries_eq_ok_iff.mp (Checked.orRefuse_eq_ok_iff.mp checked)
          refine ⟨?_, fields⟩
          rw [← sameKind]
          exact namesKind
      | counter =>
          obtain ⟨target, checked, rfl⟩ := exceptMap_eq_ok_iff.mp read
          exact ⟨namesKind, readTarget_eq_ok_iff.mp (Checked.orRefuse_eq_ok_iff.mp checked)⟩
      | gender =>
          obtain ⟨⟨target, fallback, variants⟩, phrase, rfl⟩ := exceptMap_eq_ok_iff.mp read
          obtain ⟨aimed, bodies⟩ := readPhrase_fields_eq_ok_iff.mp phrase
          exact ⟨namesKind, readTarget_eq_ok_iff.mp aimed, bodies⟩
      | plural =>
          obtain ⟨⟨argument, fallback, variants⟩, phrase, rfl⟩ := exceptMap_eq_ok_iff.mp read
          obtain ⟨placed, bodies⟩ := readPhrase_fields_eq_ok_iff.mp phrase
          exact ⟨namesKind, readArgument_eq_ok_iff.mp placed, bodies⟩

/-- A term whose fields a record holds is read from the record. -/
theorem Term.ofValue_of_isReadFrom
    {entries : List (Value × Value)}
    {term : Term}
    (given : term.IsReadFrom entries) :
    Term.ofValue (.map entries) = .ok term := by
  cases term with
  | noun ref =>
      obtain ⟨namesKind, fields⟩ := given
      rw [Term.ofValue, recordKind_eq_ok_iff.mpr namesKind]
      dsimp only
      rw [NounTerm.ofEntries_eq_ok_iff.mpr fields]
      rfl
  | modifier ref =>
      obtain ⟨namesKind, fields⟩ := given
      have checked : ModifierTerm.ofEntries ref.kind entries = .ok ref :=
        ModifierTerm.ofEntries_eq_ok_iff.mpr ⟨rfl, fields⟩
      rw [Term.ofValue, recordKind_eq_ok_iff.mpr namesKind]
      cases kind : ref.kind with
      | adjective | article =>
          rw [kind] at checked
          simp only [ModifierKind.toTermKind, checked]
          rfl
  | counter target =>
      obtain ⟨namesKind, aimed⟩ := given
      rw [Term.ofValue, recordKind_eq_ok_iff.mpr namesKind]
      dsimp only
      rw [readTarget_eq_ok_iff.mpr aimed]
      rfl
  | gender target fallback variants =>
      obtain ⟨namesKind, aimed, bodies⟩ := given
      rw [Term.ofValue, recordKind_eq_ok_iff.mpr namesKind]
      dsimp only
      rw [readPhrase_fields_eq_ok_iff.mpr ⟨readTarget_eq_ok_iff.mpr aimed, bodies⟩]
      rfl
  | plural argument fallback variants =>
      obtain ⟨namesKind, placed, bodies⟩ := given
      rw [Term.ofValue, recordKind_eq_ok_iff.mpr namesKind]
      dsimp only
      rw [readPhrase_fields_eq_ok_iff.mpr ⟨readArgument_eq_ok_iff.mpr placed, bodies⟩]
      rfl
  | bare kind => exact given.elim

/-- A record is read as the term that its fields give. -/
theorem Term.ofValue_map_eq_ok_iff {entries : List (Value × Value)} {term : Term} :
    Term.ofValue (.map entries) = .ok term ↔ term.IsReadFrom entries :=
  ⟨isReadFrom_of_ofValue, ofValue_of_isReadFrom⟩

/-! ## Bodies -/

/-- Read one item of a list as a segment. -/
def Segment.ofValue (item : Value) : Reading Segment :=
  match Segment.plain? item with
  | some segment => .ok segment
  | none => (Term.ofValue item).map .term

/-- Only a term is read as a segment that is a term. -/
theorem Segment.ofValue_eq_term_iff {item : Value} {term : Term} :
    Segment.ofValue item = .ok (.term term) ↔
      Segment.plain? item = none ∧ Term.ofValue item = .ok term := by
  rw [Segment.ofValue]
  cases item with
  | null | text content | tag kind => simp [plain?]
  | _ => simp [plain?, exceptMap_eq_ok_iff]

/-- Segments are read one by one, and the first fault stops the reading. -/
theorem segmentsOf_cons (item : Value) (rest : List Value) :
    segmentsOf (item :: rest) = do
      let segment ← Segment.ofValue item
      let segments ← segmentsOf rest
      return segment :: segments := by
  rw [segmentsOf, Segment.ofValue]
  cases Segment.plain? item <;> rfl

/-- A list is read item by item. -/
theorem segmentsOf_eq_ok_iff {items : List Value} {content : List Segment} :
    segmentsOf items = .ok content ↔
      List.Forall₂ (fun item segment => Segment.ofValue item = .ok segment) items content := by
  induction items generalizing content with
  | nil => rw [segmentsOf, List.forall₂_nil_left_iff, Except.ok.injEq, eq_comm]
  | cons item rest inductionHypothesis =>
      rw [segmentsOf_cons, List.forall₂_cons_left_iff]
      simp only [← inductionHypothesis]
      cases Segment.ofValue item with
      | error fault => simp [bind, Except.bind]
      | ok segment =>
          cases segmentsOf rest with
          | error fault => simp [bind, Except.bind]
          | ok segments => simp [bind, Except.bind, pure, Except.pure, eq_comm]

/-- A body is read from a sequence item by item. -/
theorem Body.ofValue_of_isSequence
    {value : Value}
    (sequence : value.isSequence = true) :
    Body.ofValue value = (segmentsOf value.items).map .segments := by
  cases value with
  | list items | tuple items => rfl
  | _ => cases sequence

/-- What is no sequence is a tag or a text of its own, or it is shown as text. -/
theorem Body.ofValue_of_not_isSequence
    {value : Value}
    (noSequence : value.isSequence = false) :
    (∃ kind, Body.ofValue value = .ok (.tag kind)) ∨
      (∃ content, Body.ofValue value = .ok (.text content)) ∨
      Body.ofValue value = (Reading.ofWritten value).map .text := by
  cases value with
  | list items | tuple items => cases noSequence
  | tag kind => exact .inl ⟨kind, rfl⟩
  | null | text content => exact .inr (.inl ⟨_, rfl⟩)
  | _ => exact .inr (.inr rfl)

/-! ## Variants -/

/-- Whether a value is absent. -/
def Value.isNull : Value -> Bool
  | .null => true
  | _ => false

/-- Variants are read one by one, and one that is absent is left out. -/
theorem variantPairs_cons (key value : Value) (rest : List (Value × Value)) :
    variantPairs ((key, value) :: rest) =
      if value.isNull then
        variantPairs rest
      else do
        let name ← Reading.ofWritten key
        let body ← Body.ofValue value
        let pairs ← variantPairs rest
        return (name, body) :: pairs := by
  cases value <;> rfl

/-- The variants of a table are read entry by entry, those of nothing left out. -/
theorem variantPairs_eq_ok_iff
    {entries : List (Value × Value)}
    {pairs : List (String × Body)} :
    variantPairs entries = .ok pairs ↔
      List.Forall₂ (fun entry pair => entry.1.written = .ok pair.1 ∧
        Body.ofValue entry.2 = .ok pair.2) (entries.filter fun entry => !entry.2.isNull) pairs := by
  induction entries generalizing pairs with
  | nil => simp [variantPairs, eq_comm]
  | cons entry rest inductionHypothesis =>
      obtain ⟨key, value⟩ := entry
      rw [variantPairs_cons, List.filter_cons]
      cases value.isNull with
      | true => simpa using inductionHypothesis
      | false =>
          simp only [Bool.not_false, if_true, Bool.false_eq_true, if_false,
            List.forall₂_cons_left_iff, ← inductionHypothesis]
          rw [Reading.ofWritten]
          cases key.written with
          | error error => simp [bind, Except.bind, Except.mapError]
          | ok name =>
              cases Body.ofValue value with
              | error fault => simp [bind, Except.bind, Except.mapError]
              | ok body =>
                  cases variantPairs rest with
                  | error fault => simp [bind, Except.bind, Except.mapError]
                  | ok others =>
                      simp [bind, Except.bind, pure, Except.pure, Except.mapError, eq_comm]

/-- Variants are read from nothing or from a mapping, with the last one under each name. -/
theorem variantTable_eq_ok_iff {value : Value} {variants : List (String × Body)} :
    variantTable value = .ok variants ↔
      (value = .null ∧ variants = []) ∨
        ∃ entries pairs, value = .map entries ∧ variantPairs entries = .ok pairs ∧
          Table.ofPairs pairs = variants := by
  cases value with
  | null => simp [variantTable, eq_comm]
  | map entries => simp [variantTable, exceptMap_eq_ok_iff]
  | _ => simp [variantTable]

end Concord
