import Concord.Catalog.Basic

/-!
# Values inside values

Lists, tuples and mappings hold values of their own, their parts.  Proofs about
what is read from a value follow this nesting: a fact holds of a value if it
holds of all its parts.
-/

namespace Concord

namespace Value

/-- The values that a value holds, the keys of a mapping left aside. -/
def parts : Value -> List Value
  | .list items => items
  | .tuple items => items
  | .map entries => entries.map Prod.snd
  | _ => []

/-- Every part of a value is smaller than the value, so that a recursion on parts ends. -/
theorem sizeOf_part_lt
    {value part : Value}
    (inside : part ∈ value.parts) :
    sizeOf part < sizeOf value := by
  cases value with
  | list items | tuple items =>
      have smaller : sizeOf part < sizeOf items := List.sizeOf_lt_of_mem inside
      simp only [list.sizeOf_spec, tuple.sizeOf_spec]
      omega
  | map entries =>
      obtain ⟨entry, member, rfl⟩ := List.mem_map.mp inside
      have smaller := List.sizeOf_lt_of_mem member
      obtain ⟨key, value⟩ := entry
      rw [Prod.mk.sizeOf_spec] at smaller
      rw [map.sizeOf_spec]
      dsimp only
      omega
  | _ => cases inside

/-- Induction along the nesting of values. -/
theorem nestingOn {motive : Value -> Prop}
    (step : ∀ value, (∀ part ∈ value.parts, motive part) -> motive value)
    (value : Value) :
    motive value :=
  step value fun part _inside => nestingOn step part
termination_by sizeOf value
decreasing_by exact sizeOf_part_lt _inside

/-- What is found in a mapping is one of its parts. -/
theorem mem_parts_of_find?
    {entries : List (Value × Value)}
    {key value : Value}
    (found : find? entries key = some value) :
    value ∈ (map entries).parts := by
  obtain ⟨entry, first, rfl⟩ := Option.map_eq_some_iff.mp found
  exact List.mem_map_of_mem (List.mem_of_find?_eq_some first)

/-- Whether a value is a list or a tuple. -/
def isSequence : Value -> Bool
  | .list _ | .tuple _ => true
  | _ => false

/-- The items of a list or tuple. -/
def items : Value -> List Value
  | .list items | .tuple items => items
  | _ => []

theorem items_of_not_isSequence
    {value : Value}
    (noSequence : value.isSequence = false) :
    value.items = [] := by
  cases value with
  | list items | tuple items => cases noSequence
  | _ => rfl

theorem mem_parts_of_mem_items
    {value item : Value}
    (inside : item ∈ value.items) :
    item ∈ value.parts := by
  cases value with
  | list items | tuple items => exact inside
  | _ => cases inside

/-! ## Facts that parts inherit -/

theorem areItemsWritable_iff (items : List Value) :
    areItemsWritable items = true ↔ ∀ item ∈ items, item.isWritable = true := by
  induction items with
  | nil => simp [areItemsWritable]
  | cons item rest inductionHypothesis => simp [areItemsWritable, inductionHypothesis]

/-- A mapping can be written exactly if all its keys and values can. -/
theorem areEntriesWritable_iff (entries : List (Value × Value)) :
    areEntriesWritable entries = true ↔
      ∀ entry ∈ entries, entry.1.isWritable = true ∧ entry.2.isWritable = true := by
  induction entries with
  | nil => simp [areEntriesWritable]
  | cons entry rest inductionHypothesis =>
      simp [areEntriesWritable, inductionHypothesis]

theorem isWritable_map_cons_iff {entry : Value × Value} {rest : List (Value × Value)} :
    (map (entry :: rest)).isWritable = true ↔
      (entry.1.isWritable = true ∧ entry.2.isWritable = true) ∧ (map rest).isWritable = true := by
  simp [isWritable, areEntriesWritable]

/-- What can be written is written as it is displayed. -/
theorem written_of_isWritable
    {value : Value}
    (writable : value.isWritable = true) :
    value.written = .ok value.display := by
  rw [written, whenWritable, if_pos writable]

/-- The parts of a value that can be written can be written. -/
theorem isWritable_part
    {value part : Value}
    (writable : value.isWritable = true)
    (inside : part ∈ value.parts) :
    part.isWritable = true := by
  cases value with
  | list items | tuple items => exact (areItemsWritable_iff items).mp writable part inside
  | map entries =>
      obtain ⟨entry, member, rfl⟩ := List.mem_map.mp inside
      exact ((areEntriesWritable_iff entries).mp writable entry member).2
  | _ => cases inside

/-- The keys of a mapping that can be written can be written. -/
theorem isWritable_key
    {entries : List (Value × Value)}
    {entry : Value × Value}
    (writable : (map entries).isWritable = true)
    (member : entry ∈ entries) :
    entry.1.isWritable = true :=
  ((areEntriesWritable_iff entries).mp writable entry member).1

mutual

/-- Whether a value is and holds no term that has been read before, keys left aside. -/
def isUnread : Value -> Bool
  | .term _ => false
  | .list items => areItemsUnread items
  | .tuple items => areItemsUnread items
  | .map entries => areEntriesUnread entries
  | _ => true

/-- Whether the elements of a container hold no term that has been read before. -/
def areItemsUnread : List Value -> Bool
  | [] => true
  | item :: rest => item.isUnread && areItemsUnread rest

/-- Whether the entries of a mapping hold no term that has been read before. -/
def areEntriesUnread : List (Value × Value) -> Bool
  | [] => true
  | (_, value) :: rest => value.isUnread && areEntriesUnread rest

end

theorem areItemsUnread_iff (items : List Value) :
    areItemsUnread items = true ↔ ∀ item ∈ items, item.isUnread = true := by
  induction items with
  | nil => simp [areItemsUnread]
  | cons item rest inductionHypothesis => simp [areItemsUnread, inductionHypothesis]

theorem areEntriesUnread_iff (entries : List (Value × Value)) :
    areEntriesUnread entries = true ↔ ∀ entry ∈ entries, entry.2.isUnread = true := by
  induction entries with
  | nil => simp [areEntriesUnread]
  | cons entry rest inductionHypothesis =>
      simp [areEntriesUnread, inductionHypothesis]

/-- The parts of a value without terms are without terms. -/
theorem isUnread_part
    {value part : Value}
    (unread : value.isUnread = true)
    (inside : part ∈ value.parts) :
    part.isUnread = true := by
  cases value with
  | list items | tuple items => exact (areItemsUnread_iff items).mp unread part inside
  | map entries =>
      obtain ⟨entry, member, rfl⟩ := List.mem_map.mp inside
      exact (areEntriesUnread_iff entries).mp unread entry member
  | _ => cases inside

end Value
end Concord
