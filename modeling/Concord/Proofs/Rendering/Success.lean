import Concord.Rendering.Body
import Concord.Rendering.Placeholder

/-!
# Renderings that succeed

A rendering succeeds if it ends in a result.  One after the other, renderings
succeed if each of them does; looking up a position and writing a value succeed
unless a number with too many digits stands in the way.
-/

namespace Concord

/-- Changing a result neither makes one nor takes it away. -/
theorem exists_map_ok_iff
    {α β ε : Type}
    (change : α -> β)
    (outcome : Except ε α) :
    (∃ result, outcome.map change = .ok result) ↔ ∃ result, outcome = .ok result := by
  cases outcome with
  | error error => simp [Except.map]
  | ok result => simp [Except.map]

namespace Rendering

variable {α β : Type}

/-- A rendering that ends in a result. -/
def Succeeds (rendering : Rendering α) : Prop :=
  ∃ result, rendering.outcome = .ok result

@[simp] theorem succeeds_pure (result : α) : (pure result).Succeeds :=
  ⟨result, rfl⟩

theorem succeeds_lift (outcome : Except NumberError α) :
    (lift outcome).Succeeds ↔ ∃ result, outcome = .ok result :=
  Iff.rfl

/-- Renderings one after the other succeed if each does. -/
theorem succeeds_bind (first : Rendering α) (next : α -> Rendering β) :
    (first.bind next).Succeeds ↔
      ∃ result, first.outcome = .ok result ∧ (next result).Succeeds := by
  unfold Succeeds bind
  cases first.outcome with
  | error error => simp
  | ok result => simp

theorem succeeds_lift_bind
    (outcome : Except NumberError α)
    (next : α -> Rendering β) :
    ((lift outcome).bind next).Succeeds ↔
      ∃ result, outcome = .ok result ∧ (next result).Succeeds :=
  succeeds_bind _ _

@[simp] theorem succeeds_ask (request : AgreementRequest) (result : α) :
    (ask request result).Succeeds :=
  ⟨result, rfl⟩

/-- Texts are put together exactly if both are there. -/
theorem succeeds_append (first second : Rendering String) :
    (first.append second).Succeeds ↔ first.Succeeds ∧ second.Succeeds := by
  simp only [append, succeeds_bind, succeeds_pure, and_true, exists_and_right]
  exact Iff.rfl

end Rendering

namespace Value

/-- A position that cannot be looked up because its digits are too many to be written. -/
def IsUnreadableAt (values : Value) (position : Option Int) : Prop :=
  ∃ index, position = some index ∧ values.needsLongDigits index = true

/-- An entry can be looked up unless its position is too long to be written. -/
theorem entryAt_ok_iff (values : Value) (position : Option Int) :
    (∃ value, values.entryAt position = .ok value) ↔ ¬ values.IsUnreadableAt position := by
  unfold entryAt IsUnreadableAt
  cases position with
  | none => simp
  | some index => cases long : values.needsLongDigits index <;> simp [long]

/-- A signaling undefined number, which refuses to be compared. -/
def IsSignaling (value : Value) : Prop :=
  ∃ negative payload, value = .decimal (.undefined negative true payload)

/-- Only an undefined number that refuses to be compared is not tested for zero. -/
theorem isNumericZero_ok_iff (value : Value) :
    (∃ isZero, value.isNumericZero = .ok isZero) ↔ ¬ value.IsSignaling := by
  unfold isNumericZero IsSignaling
  split <;> simp_all

theorem written_ok_iff (value : Value) :
    (∃ text, value.written = .ok text) ↔ value.isWritable = true := by
  unfold written whenWritable
  split <;> simp_all

/-- An argument has a text exactly if it can be written. -/
theorem argumentText_ok_iff (value : Value) :
    (∃ text, value.argumentText = .ok text) ↔ value.isWritable = true := by
  unfold argumentText whenWritable
  split <;> simp_all

end Value
end Concord
