import Concord.Proofs.Intake.Refusal

/-!
# What is accepted

The values that are read as terms and bodies, described by their shape: a term
is a record with a known kind and fields that can be read, and a body is
anything but a list with an item that is no segment.  Every value of this shape
is read, and every other value is refused, also where it stands deep inside.
-/

namespace Concord

/-- A record lacks a field, or the value of the field can be read. -/
def HoldsReadable {α : Type} (entries : List (Value × Value)) (short long : String)
    (read : Value -> Except FieldFault α) : Prop :=
  ∀ value, fieldValue? entries short long = some value -> ∃ result, read value = .ok result

/-- The fields of a noun reference can be read. -/
structure HoldsNoun (entries : List (Value × Value)) : Prop where
  /-- The name is a text or left out. -/
  name : HoldsReadable entries "l" "name" readText?
  /-- The form is a text or left out. -/
  form : HoldsReadable entries "f" "form" readText?
  /-- The flag for capitals can be read as true or false. -/
  capitalized : HoldsReadable entries "c" "capitalize" readTruth
  /-- The position among the arguments can be read as a whole number. -/
  argument : HoldsReadable entries "i" "index" readInteger?

/-- The fields of a reference to an adjective or article can be read. -/
structure HoldsModifier (entries : List (Value × Value)) : Prop where
  /-- The name is a text or left out. -/
  name : HoldsReadable entries "l" "name" readText?
  /-- The form is a text or left out. -/
  form : HoldsReadable entries "f" "form" readText?
  /-- The flag for capitals can be read as true or false. -/
  capitalized : HoldsReadable entries "c" "capitalize" readTruth
  /-- The position of the noun can be read as a whole number. -/
  target : HoldsReadable entries "an" "associated_noun" readInteger?
  /-- The position of the next word can be read as a whole number. -/
  follower : HoldsReadable entries "nt" "next_term" readInteger?

namespace Value

mutual

/-- The values that are accepted as terms. -/
inductive IsTerm : Value -> Prop
  | read (term : Term) : IsTerm (.term term)
  | noun {entries : List (Value × Value)}
      (named : NamesKind entries .noun)
      (fields : HoldsNoun entries) :
      IsTerm (.map entries)
  | modifier {entries : List (Value × Value)} (kind : ModifierKind)
      (named : NamesKind entries kind.toTermKind)
      (fields : HoldsModifier entries) :
      IsTerm (.map entries)
  | counter {entries : List (Value × Value)}
      (named : NamesKind entries .counter)
      (target : HoldsReadable entries "an" "associated_noun" readInteger?) :
      IsTerm (.map entries)
  | gender {entries : List (Value × Value)}
      (named : NamesKind entries .gender)
      (target : HoldsReadable entries "an" "associated_noun" readInteger?)
      (fallback : ∀ value, fieldValue? entries "def" "default" = some value -> IsBody value)
      (variants : ∀ value, fieldValue? entries "v" "forms" = some value -> IsVariants value) :
      IsTerm (.map entries)
  | plural {entries : List (Value × Value)}
      (named : NamesKind entries .plural)
      (argument : HoldsReadable entries "i" "index" readInteger?)
      (fallback : ∀ value, fieldValue? entries "def" "default" = some value -> IsBody value)
      (variants : ∀ value, fieldValue? entries "v" "forms" = some value -> IsVariants value) :
      IsTerm (.map entries)

/-- The values that are accepted as bodies. -/
inductive IsBody : Value -> Prop
  | shown {value : Value} (noSequence : value.isSequence = false) : IsBody value
  | segments {value : Value}
      (each : ∀ item ∈ value.items, item.isNull = false -> item.text? = none -> IsTerm item) :
      IsBody value

/-- The values that are accepted as the variants of a phrase. -/
inductive IsVariants : Value -> Prop
  | null : IsVariants .null
  | map {entries : List (Value × Value)}
      (each : ∀ entry ∈ entries, entry.2.isNull = false -> IsBody entry.2) :
      IsVariants (.map entries)

end

end Value

/-! ## Acceptance and reading -/

/-- What is neither absent nor a text has to be read as a term. -/
theorem Segment.plain?_eq_none_iff {item : Value} :
    plain? item = none ↔ item.isNull = false ∧ item.text? = none := by
  cases item <;> simp [plain?, Value.isNull, Value.text?]

/-- An item is read as a segment if it is plain or read as a term. -/
theorem Segment.exists_ofValue_iff {item : Value} :
    (∃ segment, Segment.ofValue item = .ok segment) ↔
      (item.isNull = false -> item.text? = none -> ∃ term, Term.ofValue item = .ok term) := by
  rw [Segment.ofValue, ← and_imp, ← plain?_eq_none_iff]
  cases plain? item with
  | some segment => simp
  | none => simp [exceptMap_eq_ok_iff]

/-- A value has the shape of a body if all its items that are no plain text have that of a term. -/
theorem Value.isBody_iff {value : Value} :
    value.IsBody ↔
      ∀ item ∈ value.items, item.isNull = false -> item.text? = none -> item.IsTerm := by
  constructor
  · rintro (noSequence | each)
    · rw [items_of_not_isSequence noSequence]
      exact List.forall_mem_nil _
    · exact each
  · exact .segments

/-- A body can be read if every item of it can that is no plain segment. -/
theorem Body.exists_ofValue_iff
    {value : Value}
    (writable : value.isWritable = true) :
    (∃ body, Body.ofValue value = .ok body) ↔
      ∀ item ∈ value.items, item.isNull = false -> item.text? = none ->
        ∃ term, Term.ofValue item = .ok term := by
  cases sequence : value.isSequence with
  | true =>
      rw [Body.ofValue_of_isSequence sequence]
      simp only [exceptMap_eq_ok_iff, segmentsOf_eq_ok_iff]
      rw [exists_comm]
      simp only [exists_and_left, exists_eq', and_true, exists_forall₂_iff,
        Segment.exists_ofValue_iff]
  | false =>
      rw [Value.items_of_not_isSequence sequence]
      refine ⟨fun _ => List.forall_mem_nil _, fun _ => ?_⟩
      rcases Body.ofValue_of_not_isSequence sequence with
        ⟨kind, read⟩ | ⟨content, read⟩ | shown
      · exact ⟨_, read⟩
      · exact ⟨_, read⟩
      · rw [shown, Reading.ofWritten, Value.written_of_isWritable writable]
        exact ⟨_, rfl⟩

/-- The variants of a phrase can be read if every variant can that is not absent. -/
theorem exists_variantTable_iff
    {value : Value}
    (writable : value.isWritable = true) :
    (∃ variants, variantTable value = .ok variants) ↔
      value = .null ∨ ∃ entries, value = .map entries ∧
        ∀ entry ∈ entries, entry.2.isNull = false ->
          ∃ body, Body.ofValue entry.2 = .ok body := by
  cases value with
  | null => simp [variantTable]
  | map entries =>
      have named (entry : Value × Value) (present : entry ∈ entries) :
          ∃ text, entry.1.written = .ok text :=
        ⟨_, Value.written_of_isWritable (Value.isWritable_key writable present)⟩
      simp only [variantTable, exceptMap_eq_ok_iff, variantPairs_eq_ok_iff]
      rw [exists_comm]
      simp only [exists_and_left, exists_eq', and_true, exists_forall₂_iff, List.mem_filter,
        Bool.not_eq_true', and_imp]
      constructor
      · intro reads
        refine .inr ⟨entries, rfl, ?_⟩
        intro entry present given
        obtain ⟨pair, _, read⟩ := reads entry present given
        exact ⟨pair.2, read⟩
      · rintro (absent | ⟨_, ⟨⟩, reads⟩)
        · cases absent
        · intro entry present given
          obtain ⟨text, written⟩ := named entry present
          obtain ⟨body, read⟩ := reads entry present given
          exact ⟨(text, body), written, read⟩
  | _ => simp [variantTable]

/-- What is read from a value is read exactly if the value has the shape for it. -/
structure Value.IsReadByShape (value : Value) : Prop where
  /-- A term is read exactly from what has the shape of a term. -/
  term : (∃ term, Term.ofValue value = .ok term) ↔ value.IsTerm
  /-- A body is read exactly from what has the shape of a body. -/
  body : (∃ body, Body.ofValue value = .ok body) ↔ value.IsBody
  /-- Variants are read exactly from what has the shape of variants. -/
  variants : (∃ variants, variantTable value = .ok variants) ↔ value.IsVariants

section

variable
  {value : Value}
  (writable : value.isWritable = true)
  (partsByShape : ∀ part ∈ value.parts, part.IsReadByShape)

include partsByShape

include writable in
/-- If terms inside are read by their shape, so is a body. -/
theorem Body.exists_ofValue_iff_isBody :
    (∃ body, Body.ofValue value = .ok body) ↔ value.IsBody := by
  have itemByShape (item : Value) (present : item ∈ value.items) :
      (∃ term, Term.ofValue item = .ok term) ↔ item.IsTerm :=
    (partsByShape item (Value.mem_parts_of_mem_items present)).term
  rw [Body.exists_ofValue_iff writable, Value.isBody_iff]
  constructor
  · intro reads item present given noText
    exact (itemByShape item present).mp (reads item present given noText)
  · intro accepted item present given noText
    exact (itemByShape item present).mpr (accepted item present given noText)

include writable in
/-- If bodies inside are read by their shape, so are variants. -/
theorem exists_variantTable_iff_isVariants :
    (∃ variants, variantTable value = .ok variants) ↔ value.IsVariants := by
  rw [exists_variantTable_iff writable]
  constructor
  · rintro (rfl | ⟨entries, rfl, reads⟩)
    · exact .null
    · refine .map ?_
      intro entry present given
      have byShape := partsByShape entry.2 (List.mem_map_of_mem present)
      exact byShape.body.mp (reads entry present given)
  · rintro (_ | accepted)
    · exact .inl rfl
    · refine .inr ⟨_, rfl, ?_⟩
      intro entry present given
      have byShape := partsByShape entry.2 (List.mem_map_of_mem present)
      exact byShape.body.mpr (accepted entry present given)

end

section

variable
  {entries : List (Value × Value)}
  (partsByShape : ∀ part ∈ (Value.map entries).parts, part.IsReadByShape)

include partsByShape

theorem exists_fallback_iff :
    (∃ fallback, FieldGives entries "def" "default" (.text "") Body.ofValue fallback) ↔
      ∀ value, fieldValue? entries "def" "default" = some value -> value.IsBody := by
  rw [exists_fieldGives_iff]
  refine forall_congr' fun value => ?_
  refine forall_congr' fun held => ?_
  exact (partsByShape value (mem_parts_of_fieldValue? held)).body

theorem exists_variants_iff :
    (∃ variants, FieldGives entries "v" "forms" [] variantTable variants) ↔
      ∀ value, fieldValue? entries "v" "forms" = some value -> value.IsVariants := by
  rw [exists_fieldGives_iff]
  refine forall_congr' fun value => ?_
  refine forall_congr' fun held => ?_
  exact (partsByShape value (mem_parts_of_fieldValue? held)).variants

/-- A record whose fields give a term has the shape of one. -/
theorem Term.IsReadFrom.isTerm
    {term : Term}
    (given : term.IsReadFrom entries) :
    (Value.map entries).IsTerm := by
  cases term with
  | noun ref =>
      obtain ⟨named, name, form, capitalized, argument⟩ := given
      exact .noun named {
        name := (exists_fieldGives_iff _).mp ⟨_, name⟩
        form := (exists_fieldGives_iff _).mp ⟨_, form⟩
        capitalized := (exists_fieldGives_iff _).mp ⟨_, capitalized⟩
        argument := (exists_fieldGives_iff _).mp ⟨_, argument⟩ }
  | modifier ref =>
      obtain ⟨named, name, form, capitalized, target, follower⟩ := given
      exact .modifier ref.kind named {
        name := (exists_fieldGives_iff _).mp ⟨_, name⟩
        form := (exists_fieldGives_iff _).mp ⟨_, form⟩
        capitalized := (exists_fieldGives_iff _).mp ⟨_, capitalized⟩
        target := (exists_fieldGives_iff _).mp ⟨_, target⟩
        follower := (exists_fieldGives_iff _).mp ⟨_, follower⟩ }
  | counter target =>
      obtain ⟨named, aimed⟩ := given
      exact .counter named ((exists_fieldGives_iff _).mp ⟨_, aimed⟩)
  | gender target fallback variants =>
      obtain ⟨named, aimed, fallbackGiven, variantsGiven⟩ := given
      exact .gender named ((exists_fieldGives_iff _).mp ⟨_, aimed⟩)
        ((exists_fallback_iff partsByShape).mp ⟨_, fallbackGiven⟩)
        ((exists_variants_iff partsByShape).mp ⟨_, variantsGiven⟩)
  | plural argument fallback variants =>
      obtain ⟨named, placed, fallbackGiven, variantsGiven⟩ := given
      exact .plural named ((exists_fieldGives_iff _).mp ⟨_, placed⟩)
        ((exists_fallback_iff partsByShape).mp ⟨_, fallbackGiven⟩)
        ((exists_variants_iff partsByShape).mp ⟨_, variantsGiven⟩)
  | bare kind => exact given.elim

/-- The fields of a record of the right shape give a term. -/
theorem exists_isReadFrom
    (accepted : (Value.map entries).IsTerm) :
    ∃ term : Term, term.IsReadFrom entries := by
  cases accepted with
  | noun named fields =>
      obtain ⟨name, nameGiven⟩ := (exists_fieldGives_iff readText?).mpr fields.name
      obtain ⟨form, formGiven⟩ := (exists_fieldGives_iff readText?).mpr fields.form
      obtain ⟨capitalized, capitalizedGiven⟩ :=
        (exists_fieldGives_iff readTruth).mpr fields.capitalized
      obtain ⟨argument, argumentGiven⟩ := (exists_fieldGives_iff readInteger?).mpr fields.argument
      exact ⟨.noun ⟨name, form, capitalized, argument⟩,
        named, nameGiven, formGiven, capitalizedGiven, argumentGiven⟩
  | modifier kind named fields =>
      obtain ⟨name, nameGiven⟩ := (exists_fieldGives_iff readText?).mpr fields.name
      obtain ⟨form, formGiven⟩ := (exists_fieldGives_iff readText?).mpr fields.form
      obtain ⟨capitalized, capitalizedGiven⟩ :=
        (exists_fieldGives_iff readTruth).mpr fields.capitalized
      obtain ⟨target, targetGiven⟩ := (exists_fieldGives_iff readInteger?).mpr fields.target
      obtain ⟨follower, followerGiven⟩ :=
        (exists_fieldGives_iff readInteger?).mpr fields.follower
      exact ⟨.modifier ⟨kind, name, form, capitalized, target, follower⟩,
        named, nameGiven, formGiven, capitalizedGiven, targetGiven, followerGiven⟩
  | counter named target =>
      obtain ⟨target, targetGiven⟩ := (exists_fieldGives_iff readInteger?).mpr target
      exact ⟨.counter target, named, targetGiven⟩
  | gender named target fallback variants =>
      obtain ⟨target, targetGiven⟩ := (exists_fieldGives_iff readInteger?).mpr target
      obtain ⟨fallback, fallbackGiven⟩ := (exists_fallback_iff partsByShape).mpr fallback
      obtain ⟨variants, variantsGiven⟩ := (exists_variants_iff partsByShape).mpr variants
      exact ⟨.gender target fallback variants,
        named, targetGiven, fallbackGiven, variantsGiven⟩
  | plural named argument fallback variants =>
      obtain ⟨argument, argumentGiven⟩ := (exists_fieldGives_iff readInteger?).mpr argument
      obtain ⟨fallback, fallbackGiven⟩ := (exists_fallback_iff partsByShape).mpr fallback
      obtain ⟨variants, variantsGiven⟩ := (exists_variants_iff partsByShape).mpr variants
      exact ⟨.plural argument fallback variants,
        named, argumentGiven, fallbackGiven, variantsGiven⟩

end

/-- If everything inside a value is read by its shape, a term is read from it by its shape. -/
theorem Term.exists_ofValue_iff_isTerm
    {value : Value}
    (partsByShape : ∀ part ∈ value.parts, part.IsReadByShape) :
    (∃ term, Term.ofValue value = .ok term) ↔ value.IsTerm := by
  cases value with
  | term term => exact ⟨fun _ => .read term, fun _ => ⟨term, rfl⟩⟩
  | map entries =>
      simp only [Term.ofValue_map_eq_ok_iff]
      constructor
      · rintro ⟨term, given⟩
        exact given.isTerm partsByShape
      · exact exists_isReadFrom partsByShape
  | _ => exact ⟨nofun, nofun⟩

/-- A value that can be written is read exactly if it has the right shape. -/
theorem Value.isReadByShape (value : Value) :
    value.isWritable = true -> value.IsReadByShape := by
  induction value using Value.nestingOn with
  | step value inductionHypothesis =>
      intro writable
      have partsByShape : ∀ part ∈ value.parts, part.IsReadByShape := by
        intro part inside
        exact inductionHypothesis part inside (isWritable_part writable inside)
      exact {
        term := Term.exists_ofValue_iff_isTerm partsByShape
        body := Body.exists_ofValue_iff_isBody writable partsByShape
        variants := exists_variantTable_iff_isVariants writable partsByShape }

/-! ## Segments at any depth -/

/-- A record of a gender or plural term holds a body, as its fallback or as a variant. -/
inductive HoldsPhrase (entries : List (Value × Value)) : Value -> Prop
  | fallback {phrase : Value}
      (chooses : NamesKind entries .gender ∨ NamesKind entries .plural)
      (held : fieldValue? entries "def" "default" = some phrase) :
      HoldsPhrase entries phrase
  | variant {variants : List (Value × Value)} {key phrase : Value}
      (chooses : NamesKind entries .gender ∨ NamesKind entries .plural)
      (held : fieldValue? entries "v" "forms" = some (.map variants))
      (present : (key, phrase) ∈ variants) :
      HoldsPhrase entries phrase

namespace Value

/-- A value stands as a segment of a body or of a phrase at some depth of it. -/
inductive HoldsSegment : Value -> Value -> Prop
  | here {body item : Value}
      (present : item ∈ body.items) :
      HoldsSegment body item
  | within {body phrase item : Value} {entries : List (Value × Value)}
      (present : .map entries ∈ body.items)
      (held : HoldsPhrase entries phrase)
      (inside : HoldsSegment phrase item) :
      HoldsSegment body item

/-- The phrases of a record that is accepted as a term are accepted as bodies. -/
theorem IsTerm.isBody_phrase
    {entries : List (Value × Value)}
    {phrase : Value}
    (accepted : (map entries).IsTerm)
    (held : HoldsPhrase entries phrase) :
    phrase.IsBody := by
  have bodies (chooses : NamesKind entries .gender ∨ NamesKind entries .plural) :
      (∀ value, fieldValue? entries "def" "default" = some value -> value.IsBody) ∧
        ∀ value, fieldValue? entries "v" "forms" = some value -> value.IsVariants := by
    cases accepted with
    | gender named target fallback variants => exact ⟨fallback, variants⟩
    | plural named argument fallback variants => exact ⟨fallback, variants⟩
    | noun named fields | counter named target =>
        rcases chooses with other | other <;> cases named.unique other
    | modifier kind named fields =>
        cases kind <;> rcases chooses with other | other <;> cases named.unique other
  cases held with
  | fallback chooses held => exact (bodies chooses).1 phrase held
  | variant chooses held present =>
      cases (bodies chooses).2 _ held with
      | map each =>
          -- An absent variant is not read, but it has the shape of a body like any other.
          cases phrase with
          | null => exact .shown rfl
          | _ => exact each _ present rfl

/-- A record at any depth of a body that is accepted is accepted as a term. -/
theorem IsBody.isTerm_of_holdsSegment
    {body : Value}
    {entries : List (Value × Value)}
    (accepted : body.IsBody)
    (held : body.HoldsSegment (.map entries)) :
    (map entries).IsTerm := by
  generalize same : map entries = item at held
  induction held with
  | here present =>
      subst same
      exact isBody_iff.mp accepted _ present rfl rfl
  | within present phraseHeld _ inductionHypothesis =>
      have outer := isBody_iff.mp accepted _ present rfl rfl
      exact inductionHypothesis (outer.isBody_phrase phraseHeld) same

/-- A record that names no kind is no term. -/
theorem not_isTerm_of_unknown
    {entries : List (Value × Value)}
    (unknown : ∀ kind, ¬ NamesKind entries kind) :
    ¬ (map entries).IsTerm := by
  intro accepted
  cases accepted with
  | noun named fields | counter named target => exact unknown _ named
  | modifier kind named fields => exact unknown kind.toTermKind named
  | gender named target fallback variants => exact unknown .gender named
  | plural named argument fallback variants => exact unknown .plural named

/--
A value that can be written is read as a term or as a body exactly if it has the
shape of one, and is refused otherwise.  One record of an unknown kind among the
segments at any depth refuses the whole body.
-/
theorem accepted_iff
    {value : Value}
    (writable : value.isWritable = true) :
    ((∃ term, Term.ofValue value = .ok term) ↔ value.IsTerm) ∧
      ((∃ body, Body.ofValue value = .ok body) ↔ value.IsBody) ∧
      (¬ value.IsTerm -> ∃ refusal, Term.ofValue value = .error (.refused refusal)) ∧
      (¬ value.IsBody -> ∃ refusal, Body.ofValue value = .error (.refused refusal)) ∧
      ∀ entries, value.HoldsSegment (.map entries) -> (∀ kind, ¬ NamesKind entries kind) ->
        ∃ refusal, Body.ofValue value = .error (.refused refusal) := by
  have byShape := value.isReadByShape writable
  have refusesTerm (noTerm : ¬ value.IsTerm) :
      ∃ refusal, Term.ofValue value = .error (.refused refusal) :=
    (Term.decides_ofValue writable).refuses (mt byShape.term.mp noTerm)
  have refusesBody (noBody : ¬ value.IsBody) :
      ∃ refusal, Body.ofValue value = .error (.refused refusal) :=
    (Body.decides_ofValue writable).refuses (mt byShape.body.mp noBody)
  refine ⟨byShape.term, byShape.body, refusesTerm, refusesBody, ?_⟩
  intro entries held unknown
  apply refusesBody
  intro accepted
  exact not_isTerm_of_unknown unknown (accepted.isTerm_of_holdsSegment held)

/-- A label with a gender phrase whose variant holds a record of an unknown kind. -/
def unknownInVariant : Value :=
  .list [.text "Your ", .map [(.text "t", .text "g"), (.text "an", .integer 0),
    (.text "forms", .map [(.text "m", .null),
      (.text "f", .list [.null, .map [(.text "t", .text "x"), (.text "l", .text "new")]])])]]

theorem accepted_iff_unknownInVariant :
    unknownInVariant.isWritable = true ∧
      ∃ refusal, Body.ofValue unknownInVariant = .error (.refused refusal) := by
  have writable : unknownInVariant.isWritable = true := by decide +kernel
  have unknown (kind : TermKind) :
      ¬ NamesKind [(.text "t", .text "x"), (.text "l", .text "new")] kind := by
    rintro ⟨value, ⟨⟩, named⟩
    cases kind <;> simp [text?, TermKind.letter] at named
  have inVariant : HoldsSegment (.list [.null, .map [(.text "t", .text "x"),
      (.text "l", .text "new")]]) (.map [(.text "t", .text "x"), (.text "l", .text "new")]) :=
    .here (List.mem_cons_of_mem _ List.mem_cons_self)
  have held : unknownInVariant.HoldsSegment
      (.map [(.text "t", .text "x"), (.text "l", .text "new")]) := by
    refine .within (List.mem_cons_of_mem _ List.mem_cons_self) ?_ inVariant
    exact .variant (.inl ⟨.text "g", rfl, rfl⟩) rfl (List.mem_cons_of_mem _ List.mem_cons_self)
  refine ⟨writable, ?_⟩
  exact (accepted_iff writable).2.2.2.2 _ held unknown

end Value
end Concord
