import Concord.Number.Decimal.Basic
import Mathlib.Algebra.Order.Field.Power
import Mathlib.Tactic.Linarith
import Mathlib.Tactic.NormNum
import Mathlib.Tactic.Positivity
import Mathlib.Tactic.Ring

/-!
# The size of a decimal

A decimal stands for an exact quotient, its coefficient times a power of ten.
Comparison never expands this quotient; it looks at signs first, then at
leading digits, and only then at whole coefficients.  It is nevertheless the
order of the quotients, so that every question about a decimal is a question
about the number that it stands for, however the number is written.
-/

namespace Concord
namespace Decimal

/-- The number that a decimal stands for without its sign. -/
def size (d : Decimal) : ℚ :=
  d.coefficient * 10 ^ d.exponent

/-- The number that a decimal stands for. -/
def toRat (d : Decimal) : ℚ :=
  if d.negative then -d.size else d.size

theorem zpow_ten_pos (exponent : ℤ) : (0 : ℚ) < 10 ^ exponent := by
  positivity

/-- A power of ten as an exponent that is split in two. -/
theorem zpow_ten_add (first second : ℤ) : (10 : ℚ) ^ (first + second) = 10 ^ first * 10 ^ second :=
  zpow_add₀ (by norm_num) first second

theorem size_nonneg (d : Decimal) : 0 ≤ d.size := by
  unfold size
  positivity

theorem size_eq_zero_iff (d : Decimal) : d.size = 0 ↔ d.coefficient = 0 := by
  rw [size, mul_eq_zero, Nat.cast_eq_zero, or_iff_left (zpow_ten_pos d.exponent).ne']

theorem size_pos_iff (d : Decimal) : 0 < d.size ↔ d.coefficient ≠ 0 := by
  rw [d.size_nonneg.lt_iff_ne', ne_eq, size_eq_zero_iff]

@[simp] theorem abs_toRat (d : Decimal) : |d.toRat| = d.size := by
  unfold toRat
  split
  · rw [abs_neg, abs_of_nonneg d.size_nonneg]
  · rw [abs_of_nonneg d.size_nonneg]

/-- Equal numbers have one size. -/
theorem size_congr
    {left right : Decimal}
    (same : left.toRat = right.toRat) :
    left.size = right.size := by
  rw [← abs_toRat, same, abs_toRat]

@[simp] theorem toRat_ofNat (n : Nat) : (ofNat n).toRat = n := by
  simp [toRat, size, ofNat]

@[simp] theorem toRat_ofInt (n : Int) : (ofInt n).toRat = n := by
  by_cases negative : n < 0
  · have below : (n : ℚ) ≤ 0 := by exact_mod_cast negative.le
    simp [toRat, size, ofInt, negative, ← Int.cast_natCast (R := ℚ), abs_of_nonpos below]
  · have above : (0 : ℚ) ≤ n := by exact_mod_cast not_lt.mp negative
    simp [toRat, size, ofInt, negative, ← Int.cast_natCast (R := ℚ), abs_of_nonneg above]

/-! ## The leading digit -/

/-- A coefficient is less than ten to the number of its digits. -/
theorem lt_pow_digitCount (d : Decimal) : d.coefficient < 10 ^ d.digitCount :=
  (digitCount_le_iff d.digitCount_pos).mp le_rfl

/-- A number that is not zero is at least the unit of its leading digit. -/
theorem zpow_adjusted_le
    {d : Decimal}
    (nonzero : d.coefficient ≠ 0) :
    (10 : ℚ) ^ d.adjusted ≤ d.size := by
  have leading : ((10 : ℚ) ^ (d.digitCount - 1) : ℚ) ≤ d.coefficient := by
    exact_mod_cast pow_digitCount_le nonzero
  have split : d.adjusted = ((d.digitCount - 1 : ℕ) : ℤ) + d.exponent := by
    have := d.digitCount_pos
    rw [adjusted]
    omega
  rw [split, zpow_ten_add, zpow_natCast, size]
  exact mul_le_mul_of_nonneg_right leading (zpow_ten_pos _).le

/-- A number is less than ten units of its leading digit. -/
theorem size_lt_zpow (d : Decimal) : d.size < 10 ^ (d.adjusted + 1) := by
  have leading : (d.coefficient : ℚ) < 10 ^ d.digitCount := by
    exact_mod_cast d.lt_pow_digitCount
  have split : d.adjusted + 1 = (d.digitCount : ℤ) + d.exponent := by
    rw [adjusted]
    omega
  rw [split, zpow_ten_add, zpow_natCast, size]
  exact mul_lt_mul_of_pos_right leading (zpow_ten_pos _)

/-- A number whose leading digit stands further left is larger. -/
theorem size_lt_of_adjusted_lt
    {left right : Decimal}
    (nonzero : right.coefficient ≠ 0)
    (further : left.adjusted < right.adjusted) :
    left.size < right.size :=
  calc left.size
      < 10 ^ (left.adjusted + 1) := left.size_lt_zpow
    _ ≤ 10 ^ right.adjusted := zpow_le_zpow_right₀ (by norm_num) further
    _ ≤ right.size := zpow_adjusted_le nonzero

/-! ## Comparison -/

/-- An ordering says how one number stands to another. -/
structure Orders (ordering : Ordering) (left right : ℚ) : Prop where
  /-- It says less exactly for a smaller number. -/
  below : ordering = .lt ↔ left < right
  /-- It says equal exactly for the same number. -/
  same : ordering = .eq ↔ left = right
  /-- It says greater exactly for a larger number. -/
  above : ordering = .gt ↔ right < left

/-- Whole numbers order two quotients that stand to each other as they do. -/
theorem orders_of_int
    {first second : ℤ}
    {left right : ℚ}
    (below : first < second -> left < right)
    (same : first = second -> left = right)
    (above : second < first -> right < left) :
    Orders (Ord.compare first second) left right := by
  rcases lt_trichotomy first second with less | equal | greater
  · rw [Int.compare_eq_lt.mpr less]
    have := below less
    exact ⟨by simp [this], by simp [this.ne], by simp [this.le]⟩
  · rw [Int.compare_eq_eq.mpr equal]
    have := same equal
    exact ⟨by simp [this], by simp [this], by simp [this]⟩
  · rw [Int.compare_eq_gt.mpr greater]
    have := above greater
    exact ⟨by simp [this.le], by simp [this.ne'], by simp [this]⟩

theorem coefficient_ne_zero_of_sign
    {d : Decimal}
    (signed : d.sign ≠ 0) :
    d.coefficient ≠ 0 := by
  intro zero
  exact signed (by simp [sign, zero])

/-- A number is its sign times its size. -/
theorem toRat_eq_sign_mul_size (d : Decimal) : d.toRat = d.sign * d.size := by
  by_cases zero : d.coefficient = 0
  · simp [toRat, d.size_eq_zero_iff.mpr zero]
  · cases negative : d.negative <;> simp [toRat, sign, zero, negative]

/-- The sign of a decimal is the sign of the number. -/
theorem sign_cases (d : Decimal) :
    (d.sign = 0 ∧ d.toRat = 0) ∨ (d.sign = 1 ∧ 0 < d.toRat) ∨ (d.sign = -1 ∧ d.toRat < 0) := by
  rw [toRat_eq_sign_mul_size]
  by_cases zero : d.coefficient = 0
  · exact .inl (by simp [sign, zero])
  · have positive := d.size_pos_iff.mpr zero
    cases negative : d.negative with
    | false => exact .inr (.inl (by simp [sign, zero, negative, positive]))
    | true => exact .inr (.inr (by simp [sign, zero, negative, positive]))

/-- A smaller sign makes a smaller number. -/
theorem toRat_lt_of_sign_lt
    {left right : Decimal}
    (less : left.sign < right.sign) :
    left.toRat < right.toRat := by
  rcases left.sign_cases with ⟨_, _⟩ | ⟨_, _⟩ | ⟨_, _⟩ <;>
    rcases right.sign_cases with ⟨_, _⟩ | ⟨_, _⟩ | ⟨_, _⟩ <;>
    first | omega | linarith

/-- Of two numbers with one sign the leading digits tell the order. -/
theorem toRat_lt_of_signed_adjusted_lt
    {left right : Decimal}
    (sameSign : left.sign = right.sign)
    (signed : left.sign ≠ 0)
    (less : left.sign * left.adjusted < right.sign * right.adjusted) :
    left.toRat < right.toRat := by
  rw [toRat_eq_sign_mul_size, toRat_eq_sign_mul_size]
  have leftNonzero := coefficient_ne_zero_of_sign signed
  have rightNonzero := coefficient_ne_zero_of_sign (sameSign ▸ signed)
  rcases left.sign_cases with ⟨zero, _⟩ | ⟨positive, _⟩ | ⟨negative, _⟩
  · exact absurd zero signed
  · rw [← sameSign, positive, one_mul, one_mul] at less
    simpa [← sameSign, positive] using size_lt_of_adjusted_lt rightNonzero less
  · rw [← sameSign, negative, neg_one_mul, neg_one_mul, neg_lt_neg_iff] at less
    simpa [← sameSign, negative] using size_lt_of_adjusted_lt leftNonzero less

/-- On a scale below its exponent a decimal is a whole number of units. -/
theorem scaled_mul_zpow
    {d : Decimal}
    {scale : ℤ}
    (fine : scale ≤ d.exponent) :
    (d.scaled scale : ℚ) * 10 ^ scale = d.toRat := by
  have split : d.exponent = ((d.exponent - scale).toNat : ℤ) + scale := by omega
  have units : (d.coefficient * 10 ^ (d.exponent - scale).toNat : ℚ) * 10 ^ scale = d.size := by
    conv_rhs => rw [size, split, zpow_ten_add, zpow_natCast]
    ring
  cases negative : d.negative <;> simp [scaled, toRat, negative, ← units]

/-- Comparison is the exact order of the numbers. -/
theorem orders_compare (left right : Decimal) :
    Orders (left.compare right) left.toRat right.toRat := by
  unfold compare
  split
  · rename_i signsTell
    refine orders_of_int toRat_lt_of_sign_lt ?_ toRat_lt_of_sign_lt
    intro sameSign
    have zero : left.sign = 0 := signsTell.resolve_left fun different => different sameSign
    rcases left.sign_cases with ⟨_, leftZero⟩ | ⟨_, _⟩ | ⟨_, _⟩
    · rcases right.sign_cases with ⟨_, rightZero⟩ | ⟨_, _⟩ | ⟨_, _⟩
      · rw [leftZero, rightZero]
      · omega
      · omega
    · omega
    · omega
  · rename_i signsAgree
    obtain ⟨sameSign, signed⟩ := not_or.mp signsAgree
    rw [not_not] at sameSign
    split
    · rename_i differentOrder
      refine orders_of_int (toRat_lt_of_signed_adjusted_lt sameSign signed) ?_
        (toRat_lt_of_signed_adjusted_lt sameSign.symm (sameSign ▸ signed))
      intro sameProduct
      rw [← sameSign] at sameProduct
      exact absurd (Int.eq_of_mul_eq_mul_left signed sameProduct) differentOrder
    · have unit := zpow_ten_pos (min left.exponent right.exponent)
      rw [← scaled_mul_zpow (min_le_left left.exponent right.exponent),
        ← scaled_mul_zpow (min_le_right left.exponent right.exponent)]
      apply orders_of_int
      · intro less
        exact mul_lt_mul_of_pos_right (by exact_mod_cast less) unit
      · intro equal
        rw [equal]
      · intro greater
        exact mul_lt_mul_of_pos_right (by exact_mod_cast greater) unit

theorem isNat_iff (d : Decimal) (n : Nat) : d.isNat n = true ↔ d.toRat = n := by
  rw [isNat, beq_iff_eq, (d.orders_compare (ofNat n)).same, toRat_ofNat]

theorem isBelow_iff (d : Decimal) (n : Int) : d.isBelow n = true ↔ d.toRat < n := by
  rw [isBelow, beq_iff_eq, (d.orders_compare (ofInt n)).below, toRat_ofInt]

theorem isAbove_iff (d : Decimal) (n : Int) : d.isAbove n = true ↔ (n : ℚ) < d.toRat := by
  rw [isAbove, beq_iff_eq, (d.orders_compare (ofInt n)).above, toRat_ofInt]

end Decimal
end Concord
