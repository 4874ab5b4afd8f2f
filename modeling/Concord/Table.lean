/-!
# Ordered tables

A table pairs keys with values in the order in which the keys first came.
Writing to a key that is already there keeps its place and replaces its value.
-/

namespace Concord

/-- Keys and their values, in order of first insertion. -/
abbrev Table (κ α : Type) := List (κ × α)

namespace Table

variable {κ α : Type} [DecidableEq κ]

/-- The value under a key. -/
def get? : Table κ α -> κ -> Option α
  | [], _ => none
  | (key, value) :: rest, wanted => if key = wanted then some value else get? rest wanted

/-- Write a value under a key. -/
def insert : Table κ α -> κ -> α -> Table κ α
  | [], key, value => [(key, value)]
  | (other, kept) :: rest, key, value =>
      if other = key then (key, value) :: rest else (other, kept) :: insert rest key value

/-- Read pairs in order, a later one replacing the value of an earlier one with the same key. -/
def ofPairs (pairs : List (κ × α)) : Table κ α :=
  pairs.foldl (fun table pair => table.insert pair.1 pair.2) []

/-- The keys in order. -/
def keys (table : List (κ × α)) : List κ :=
  table.map Prod.fst

@[simp] theorem get?_nil (key : κ) :
    get? ([] : Table κ α) key = none := rfl

@[simp] theorem get?_cons (key : κ) (value : α) (rest : Table κ α) (wanted : κ) :
    get? ((key, value) :: rest) wanted =
      if key = wanted then some value else get? rest wanted := rfl

@[simp] theorem get?_insert (table : Table κ α) (key : κ) (value : α) (wanted : κ) :
    (table.insert key value).get? wanted =
      if key = wanted then some value else table.get? wanted := by
  induction table with
  | nil => rfl
  | cons pair rest inductionHypothesis =>
      obtain ⟨other, kept⟩ := pair
      by_cases same : other = key
      · subst same
        by_cases found : other = wanted <;> simp [insert, found]
      · by_cases found : other = wanted
        · subst found
          simp [insert, same, Ne.symm same]
        · simp [insert, same, found, inductionHypothesis]

/-- What is not among the keys is not found. -/
theorem get?_eq_none
    {table : Table κ α}
    {wanted : κ}
    (absent : wanted ∉ keys table) :
    table.get? wanted = none := by
  induction table with
  | nil => rfl
  | cons pair rest inductionHypothesis =>
      obtain ⟨other, kept⟩ := pair
      have different : wanted ≠ other := List.ne_of_not_mem_cons absent
      rw [get?_cons, if_neg different.symm]
      exact inductionHypothesis (List.not_mem_of_not_mem_cons absent)

/-- What is found under a key is an entry of the table. -/
theorem mem_of_get?
    {table : Table κ α}
    {key : κ}
    {value : α}
    (found : table.get? key = some value) :
    (key, value) ∈ table := by
  induction table with
  | nil => cases found
  | cons entry rest inductionHypothesis =>
      obtain ⟨name, kept⟩ := entry
      rw [get?_cons] at found
      split at found
      case isTrue same =>
        obtain rfl := Option.some.inj found
        rw [same]
        exact List.mem_cons_self
      case isFalse => exact List.mem_cons_of_mem _ (inductionHypothesis found)

theorem mem_keys_insert (table : Table κ α) (key : κ) (value : α) (wanted : κ) :
    wanted ∈ keys (table.insert key value) ↔ wanted = key ∨ wanted ∈ keys table := by
  induction table with
  | nil => simp [insert, keys]
  | cons pair rest inductionHypothesis =>
      obtain ⟨other, kept⟩ := pair
      by_cases same : other = key
      · subst same
        simp [insert, keys]
      · simp only [keys] at inductionHypothesis
        simp [insert, keys, same, inductionHypothesis, or_left_comm]

/-- Something is found under a key exactly if it is among the keys. -/
theorem isSome_get?_iff (table : Table κ α) (wanted : κ) :
    (table.get? wanted).isSome = true ↔ wanted ∈ keys table := by
  induction table with
  | nil => simp [keys]
  | cons pair rest inductionHypothesis =>
      obtain ⟨other, kept⟩ := pair
      rw [get?_cons, keys, List.map_cons, List.mem_cons]
      by_cases same : other = wanted
      · simp [same]
      · rw [if_neg same, inductionHypothesis, or_iff_right (Ne.symm same), keys]

end Table
end Concord
