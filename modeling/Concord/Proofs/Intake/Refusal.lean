import Concord.Proofs.Intake.Reading

/-!
# Readings that decide

A number too long to be written can stop a reading.  A value without such
numbers is either read or refused, and a record takes a body that a number
stops for one more field that cannot be read.
-/

namespace Concord

namespace Reading

variable {α β : Type} {reading : Reading α}

/-- A reading that gives a result or refuses the value, and is stopped by no number. -/
def Decides (reading : Reading α) : Prop :=
  ∀ error, reading ≠ .error (.number error)

/-- A reading that decides and gives no result refuses. -/
theorem Decides.refuses
    (decides : reading.Decides)
    (fails : ¬ ∃ result, reading = .ok result) :
    ∃ refusal, reading = .error (.refused refusal) := by
  cases reading with
  | ok result => exact (fails ⟨result, rfl⟩).elim
  | error fault =>
      cases fault with
      | refused refusal => exact ⟨refusal, rfl⟩
      | number error => exact (decides error rfl).elim

theorem decides_ok (result : α) : Decides (.ok result) :=
  nofun

theorem decides_refused (refusal : Refusal) : Decides (.error (.refused refusal) : Reading α) :=
  nofun

/-- Changing the result of a reading does not keep it from deciding. -/
theorem Decides.map
    (decides : reading.Decides)
    (change : α -> β) :
    Decides (reading.map change) := by
  cases reading with
  | ok result => exact decides_ok (change result)
  | error fault =>
      cases fault with
      | refused refusal => exact decides_refused refusal
      | number error => exact (decides error rfl).elim

/-- Readings that decide do so one after the other. -/
theorem Decides.bind
    {next : α -> Reading β}
    (decides : reading.Decides)
    (continues : ∀ result, (next result).Decides) :
    Decides (reading >>= next) := by
  cases reading with
  | ok result => exact continues result
  | error fault =>
      cases fault with
      | refused refusal => exact decides_refused refusal
      | number error => exact (decides error rfl).elim

theorem decides_ofWritten
    {value : Value}
    (writable : value.isWritable = true) :
    (ofWritten value).Decides := by
  rw [ofWritten, Value.written_of_isWritable writable]
  exact decides_ok value.display

/-- A field of a record takes in whatever a number stops. -/
theorem decides_asField (name : String) (reading : Reading α) : (reading.asField name).Decides := by
  cases reading with
  | ok result => exact decides_ok _
  | error fault =>
      cases fault with
      | refused refusal => exact decides_refused refusal
      | number error => exact decides_ok _

end Reading

/-- A preferred reading decides in any case: a number that stops it counts as a faulty field. -/
theorem decides_preferred {α : Type}
    (short long : String)
    (underShort underLong : Option (Reading α))
    (default : α) :
    (preferred short long underShort underLong default).Decides := by
  cases underShort with
  | some reading => exact Reading.decides_asField short reading
  | none =>
      cases underLong with
      | some reading => exact Reading.decides_asField long reading
      | none => exact Reading.decides_ok _

/-- A check accepts or refuses and is stopped by no number. -/
theorem Checked.decides_orRefuse {α : Type}
    (kind : TermKind)
    (entries : List (Value × Value))
    (checked : Checked α) :
    (checked.orRefuse kind entries).Decides := by
  cases checked with
  | ok result => exact Reading.decides_ok result
  | error failures => exact Reading.decides_refused _

/-- Reading a phrase decides if reading its fallback and its variants does. -/
theorem decides_readPhrase
    {kind : TermKind}
    {entries : List (Value × Value)}
    {position : Checked (Option Int)}
    {fallback : Reading (Checked Body)}
    {variants : Reading (Checked (List (String × Body)))}
    (fallbackDecides : fallback.Decides)
    (variantsDecide : variants.Decides) :
    (readPhrase kind entries position fallback variants).Decides := by
  refine fallbackDecides.bind fun fallback => ?_
  refine variantsDecide.bind fun variants => ?_
  exact Checked.decides_orRefuse kind entries _

theorem TermKind.decides_ofValue
    {value : Value}
    (writable : value.isWritable = true) :
    (ofValue value).Decides := by
  rw [ofValue]
  cases named? value with
  | some kind => exact Reading.decides_ok kind
  | none =>
      dsimp only
      rw [if_pos writable]
      exact Reading.decides_refused _

theorem decides_recordKind
    {entries : List (Value × Value)}
    (writable : (Value.map entries).isWritable = true) :
    (recordKind entries).Decides := by
  refine TermKind.decides_ofValue ?_
  cases found : Value.find? entries (.text "t") with
  | none => rfl
  | some value => exact Value.isWritable_part writable (Value.mem_parts_of_find? found)

/-- A value that can be written is read as a term or refused. -/
theorem Term.decides_ofValue
    {value : Value}
    (writable : value.isWritable = true) :
    (Term.ofValue value).Decides := by
  cases value with
  | term term => exact Reading.decides_ok term
  | map entries =>
      rw [Term.ofValue]
      have decides := decides_recordKind writable
      cases named : recordKind entries with
      | error fault =>
          rw [named] at decides
          intro error same
          exact decides error (congrArg Except.error (Except.error.inj same))
      | ok kind =>
          cases kind with
          | noun | adjective | article | counter =>
              exact (Checked.decides_orRefuse _ _ _).map _
          | gender | plural =>
              exact (decides_readPhrase (decides_preferred _ _ _ _ _)
                (decides_preferred _ _ _ _ _)).map _
  | _ => exact Reading.decides_refused _

theorem Segment.decides_ofValue
    {item : Value}
    (writable : item.isWritable = true) :
    (Segment.ofValue item).Decides := by
  rw [Segment.ofValue]
  cases Segment.plain? item with
  | some segment => exact Reading.decides_ok segment
  | none => exact (Term.decides_ofValue writable).map _

theorem decides_segmentsOf
    {items : List Value}
    (writable : ∀ item ∈ items, item.isWritable = true) :
    (segmentsOf items).Decides := by
  induction items with
  | nil => exact Reading.decides_ok []
  | cons item rest inductionHypothesis =>
      rw [segmentsOf_cons]
      have writableItem := writable item List.mem_cons_self
      have writableRest : ∀ other ∈ rest, other.isWritable = true := by
        intro other present
        exact writable other (List.mem_cons_of_mem item present)
      refine (Segment.decides_ofValue writableItem).bind fun segment => ?_
      refine (inductionHypothesis writableRest).bind fun segments => ?_
      exact Reading.decides_ok _

/-- A value that can be written is read as a body or refused. -/
theorem Body.decides_ofValue
    {value : Value}
    (writable : value.isWritable = true) :
    (Body.ofValue value).Decides := by
  cases sequence : value.isSequence with
  | true =>
      rw [Body.ofValue_of_isSequence sequence]
      refine (decides_segmentsOf ?_).map _
      intro item inside
      exact Value.isWritable_part writable (Value.mem_parts_of_mem_items inside)
  | false =>
      rcases Body.ofValue_of_not_isSequence sequence with
        ⟨kind, read⟩ | ⟨content, read⟩ | shown
      · rw [read]
        exact Reading.decides_ok _
      · rw [read]
        exact Reading.decides_ok _
      · rw [shown]
        exact (Reading.decides_ofWritten writable).map _

end Concord
