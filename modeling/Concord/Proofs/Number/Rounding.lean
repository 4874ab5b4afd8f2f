import Concord.Number.Decimal.Rounding

/-!
# Dropped digits

Dropping digits by rounding can carry into one digit more than is kept, and
then one more is dropped.  So the leading digit moves by two places at most,
and only a number of an enormous order of magnitude cannot be rounded.
-/

namespace Concord

/-- Rounding a quotient adds one at most. -/
theorem roundedQuotient_le (numerator unit : Nat) :
    roundedQuotient numerator unit ≤ numerator / unit + 1 := by
  unfold roundedQuotient
  dsimp only
  split <;> omega

namespace Decimal

@[simp] theorem dropDigits_zero (d : Decimal) : d.dropDigits 0 = d := by
  simp [dropDigits]

/-- Dropping digits leaves as many as expected, or carries into a power of ten. -/
theorem coefficient_dropDigits_le
    {d : Decimal}
    {places : Nat}
    (enough : places ≤ d.digitCount) :
    (d.dropDigits places).coefficient ≤ Nat.pow 10 (d.digitCount - places) := by
  have bounded : d.coefficient < 10 ^ d.digitCount :=
    (digitCount_le_iff d.digitCount_pos).mp (Nat.le_refl _)
  have split : 10 ^ d.digitCount = 10 ^ (d.digitCount - places) * 10 ^ places := by
    rw [← Nat.pow_add, Nat.sub_add_cancel enough]
  have quotient : d.coefficient / 10 ^ places < 10 ^ (d.digitCount - places) := by
    rw [Nat.div_lt_iff_lt_mul (Nat.pow_pos (by decide)), ← split]
    exact bounded
  calc (d.dropDigits places).coefficient
      ≤ d.coefficient / 10 ^ places + 1 := roundedQuotient_le _ _
    _ ≤ 10 ^ (d.digitCount - places) := quotient

/-- A carry is the only way in which dropping digits can leave one more than expected. -/
theorem digitCount_dropDigits_le
    {d : Decimal}
    {places : Nat}
    (enough : places ≤ d.digitCount) :
    (d.dropDigits places).digitCount ≤ d.digitCount - places + 1 := by
  rw [digitCount_le_iff (by omega)]
  calc (d.dropDigits places).coefficient
      ≤ 10 ^ (d.digitCount - places) := coefficient_dropDigits_le enough
    _ < 10 ^ (d.digitCount - places + 1) := Nat.pow_lt_pow_succ (by decide)

/-- Digits that are more than expected are those of the power of ten. -/
theorem coefficient_of_carry
    {d : Decimal}
    {places : Nat}
    (several : places < d.digitCount)
    (carried : d.digitCount - places < (d.dropDigits places).digitCount) :
    (d.dropDigits places).coefficient = Nat.pow 10 (d.digitCount - places) := by
  apply Nat.le_antisymm (coefficient_dropDigits_le (Nat.le_of_lt several))
  have longer : ¬ (d.dropDigits places).digitCount ≤ d.digitCount - places := by omega
  rw [digitCount_le_iff (by omega)] at longer
  exact Nat.not_lt.mp longer

/-- Dropping digits moves the leading digit up by one place at most. -/
theorem adjusted_dropDigits_le
    {d : Decimal}
    {places : Nat}
    (enough : places ≤ d.digitCount) :
    (d.dropDigits places).adjusted ≤ d.adjusted + 1 := by
  have remaining := digitCount_dropDigits_le enough
  have moved : (d.dropDigits places).exponent = d.exponent + places := rfl
  rw [adjusted, adjusted, moved]
  omega

/-- Rounding moves the leading digit by two places at most. -/
theorem adjusted_roundTo_le (count : Nat) (d : Decimal) :
    (d.roundTo count).adjusted ≤ d.adjusted + 2 := by
  have once := adjusted_dropDigits_le (Nat.sub_le d.digitCount count)
  have twice := adjusted_dropDigits_le
    (Nat.sub_le (d.dropDigits (d.digitCount - count)).digitCount count)
  rw [roundTo]
  omega

/-- Only a number of an enormous order of magnitude has no size in the working context. -/
theorem magnitude_of_adjusted_lt
    {d : Decimal}
    (small : d.coefficient ≠ 0 -> d.adjusted + 2 ≤ largestExponent) :
    ∃ magnitude, d.magnitude = .ok magnitude := by
  unfold magnitude
  split
  · exact ⟨_, rfl⟩
  · have bound := adjusted_roundTo_le precision d.abs
    have unsigned : d.abs.adjusted = d.adjusted := rfl
    have fits : ¬ largestExponent < (d.abs.roundTo precision).adjusted := by
      have := small ‹_›
      omega
    exact ⟨_, if_neg fits⟩

end Decimal
end Concord
