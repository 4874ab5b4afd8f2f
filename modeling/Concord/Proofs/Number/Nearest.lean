import Concord.Proofs.Number.Rounding
import Concord.Proofs.Number.Size
import Mathlib.Algebra.Ring.Parity
import Mathlib.Tactic.FieldSimp

/-!
# Rounding to the nearest

A rounded quotient lies within a half of the exact one, and an even number
within a half of the exact quotient is the rounded one.  A decimal is rounded
in units that depend on its leading digit.  Around a power of ten the units
change, so the numbers that are rounded to one reach ten times as far above it
as below.
-/

namespace Concord

section

variable (numerator : Nat) {unit : Nat} (positive : 0 < unit)

include positive

theorem div_eq_quotient_add_remainder :
    (numerator : ℚ) / unit = (numerator / unit : ℕ) + (numerator % unit : ℕ) / unit := by
  have exact : (numerator : ℚ) = unit * (numerator / unit : ℕ) + (numerator % unit : ℕ) := by
    exact_mod_cast (Nat.div_add_mod numerator unit).symm
  have unitPositive : (unit : ℚ) ≠ 0 := by exact_mod_cast positive.ne'
  conv_lhs => rw [exact]
  field_simp

/-- A rounded quotient lies within a half of the exact one. -/
theorem roundedQuotient_nearest :
    |(numerator : ℚ) / unit - roundedQuotient numerator unit| ≤ 1 / 2 := by
  have unitPositive : (0 : ℚ) < unit := by exact_mod_cast positive
  have remainderBelow : ((numerator % unit : ℕ) : ℚ) / unit < 1 := by
    rw [div_lt_one unitPositive]
    exact_mod_cast Nat.mod_lt _ positive
  have remainderAbove : (0 : ℚ) ≤ (numerator % unit : ℕ) / unit := by positivity
  rw [div_eq_quotient_add_remainder numerator positive, abs_le]
  unfold roundedQuotient
  dsimp only
  split
  · have upperHalf : (1 : ℚ) / 2 ≤ (numerator % unit : ℕ) / unit := by
      rw [le_div_iff₀ unitPositive, div_mul_eq_mul_div, one_mul, div_le_iff₀ two_pos]
      exact_mod_cast (by omega : unit ≤ numerator % unit * 2)
    push_cast
    constructor <;> linarith
  · have lowerHalf : ((numerator % unit : ℕ) : ℚ) / unit ≤ 1 / 2 := by
      rw [div_le_iff₀ unitPositive, div_mul_eq_mul_div, one_mul, le_div_iff₀ two_pos]
      exact_mod_cast (by omega : numerator % unit * 2 ≤ unit)
    constructor <;> linarith

/-- An even number within a half of the exact quotient is the rounded one. -/
theorem roundedQuotient_of_even
    {target : Nat}
    (even : Even target)
    (near : |(numerator : ℚ) / unit - target| ≤ 1 / 2) :
    roundedQuotient numerator unit = target := by
  have unitPositive : (0 : ℚ) < unit := by exact_mod_cast positive
  obtain ⟨atLeast, atMost⟩ := abs_le.mp near
  rw [neg_le_sub_iff_le_add, ← sub_le_iff_le_add, le_div_iff₀ unitPositive] at atLeast
  rw [sub_le_iff_le_add, div_le_iff₀ unitPositive] at atMost
  have lower : 2 * (unit * target) ≤ 2 * numerator + unit := by
    have : (2 * (unit * target) : ℚ) ≤ 2 * numerator + unit := by linarith
    exact_mod_cast this
  have upper : 2 * numerator ≤ 2 * (unit * target) + unit := by
    have : (2 * numerator : ℚ) ≤ 2 * (unit * target) + unit := by linarith
    exact_mod_cast this
  have exact := Nat.div_add_mod numerator unit
  have small := Nat.mod_lt numerator positive
  have notBelow : numerator / unit ≤ target := by
    by_contra below
    have : unit * (target + 1) ≤ unit * (numerator / unit) := Nat.mul_le_mul_left _ (by omega)
    rw [Nat.mul_succ] at this
    omega
  have notAbove : target ≤ numerator / unit + 1 := by
    by_contra above
    have : unit * (numerator / unit + 2) ≤ unit * target := Nat.mul_le_mul_left _ (by omega)
    rw [Nat.mul_add] at this
    omega
  obtain ⟨half, twice⟩ := even
  unfold roundedQuotient
  dsimp only
  rcases Nat.lt_or_ge (numerator / unit) target with next | same
  · have target_eq : target = numerator / unit + 1 := by omega
    rw [target_eq, Nat.mul_succ] at lower
    rw [target_eq, if_pos]
    omega
  · have target_eq : target = numerator / unit := by omega
    rw [target_eq] at upper
    rw [target_eq, if_neg]
    omega

end

/-- A distance of at most half a unit, counted in units and as it is. -/
theorem abs_sub_le_half_unit_iff
    {size unit : ℚ}
    (positive : 0 < unit)
    (kept : ℚ) :
    |size / unit - kept| ≤ 1 / 2 ↔ |size - kept * unit| ≤ unit / 2 := by
  have scaled : size - kept * unit = (size / unit - kept) * unit := by
    rw [sub_mul, div_mul_cancel₀ _ positive.ne']
  rw [scaled, abs_mul, abs_of_pos positive, div_eq_mul_one_div unit, mul_comm unit,
    mul_le_mul_iff_left₀ positive]

namespace Decimal

/-- Dropping zeros does not change the number. -/
theorem size_dropDigits_of_eq_mul
    {d : Decimal}
    {kept places : Nat}
    (zeros : d.coefficient = kept * 10 ^ places) :
    (d.dropDigits places).size = d.size := by
  have dropped : (d.dropDigits places).coefficient = kept := by
    rw [dropDigits, zeros]
    exact roundedQuotient_mul kept _ (Nat.pow_pos (by decide))
  have moved : (d.dropDigits places).exponent = d.exponent + places := rfl
  rw [size, size, dropped, moved, zeros, zpow_ten_add, zpow_natCast]
  push_cast
  ring

/-- The digit that a carry adds is dropped again without a change of the number. -/
theorem size_roundTo
    {d : Decimal}
    {count : Nat}
    (several : 0 < count) :
    (d.roundTo count).size = (d.dropDigits (d.digitCount - count)).size := by
  have positive := d.digitCount_pos
  have carriesOne := digitCount_dropDigits_le (Nat.sub_le d.digitCount count)
  by_cases carried : count < (d.dropDigits (d.digitCount - count)).digitCount
  · -- A carry leaves a power of ten, and it is the last of its zeros that is dropped.
    by_cases long : count < d.digitCount
    · have remaining : d.digitCount - (d.digitCount - count) = count := by omega
      have power : (d.dropDigits (d.digitCount - count)).coefficient = 10 ^ count := by
        rw [coefficient_of_carry (by omega) (by omega), remaining]
        rfl
      have oneMore : (d.dropDigits (d.digitCount - count)).digitCount - count = 1 := by omega
      rw [roundTo, oneMore]
      apply size_dropDigits_of_eq_mul
      rw [power, pow_one, Nat.pow_pred_mul several]
    · rw [Nat.sub_eq_zero_of_le (Nat.not_lt.mp long), dropDigits_zero] at carried
      exact absurd carried long
  · rw [roundTo, Nat.sub_eq_zero_of_le (Nat.not_lt.mp carried), dropDigits_zero]

/-- The place of the last digit that is kept, counted from the leading digit. -/
def lastUnit (d : Decimal) (count : Nat) : ℚ :=
  10 ^ (d.adjusted - count + 1)

theorem lastUnit_pos (d : Decimal) (count : Nat) : 0 < d.lastUnit count :=
  zpow_ten_pos _

/-- Rounding keeps the nearest number of units, and an even number that is as near as any. -/
theorem roundTo_nearest
    (d : Decimal)
    {count : Nat}
    (several : 0 < count) :
    ∃ kept : ℕ,
      (d.roundTo count).size = kept * d.lastUnit count ∧
      |d.size - kept * d.lastUnit count| ≤ d.lastUnit count / 2 ∧
      ∀ target : ℕ, Even target ->
        |d.size - target * d.lastUnit count| ≤ d.lastUnit count / 2 -> kept = target := by
  simp only [← abs_sub_le_half_unit_iff (d.lastUnit_pos count)]
  rw [size_roundTo several, lastUnit]
  by_cases long : count ≤ d.digitCount
  · have unit : d.adjusted - count + 1 = d.exponent + (d.digitCount - count : ℕ) := by
      rw [adjusted]
      omega
    have units : d.size / 10 ^ (d.adjusted - count + 1) =
        d.coefficient / (10 ^ (d.digitCount - count) : ℕ) := by
      rw [unit, size, zpow_ten_add, zpow_natCast, Nat.cast_pow, Nat.cast_ofNat, mul_comm,
        mul_div_mul_left _ _ (zpow_ten_pos _).ne']
    rw [units]
    refine ⟨roundedQuotient d.coefficient (10 ^ (d.digitCount - count)), ?_, ?_, ?_⟩
    · rw [unit]
      rfl
    · exact roundedQuotient_nearest d.coefficient (by positivity)
    · intro target even near
      exact roundedQuotient_of_even d.coefficient (by positivity) even near
  · -- No digit is dropped, so the number is a whole number of units already.
    have split : d.exponent = (count - d.digitCount : ℕ) + (d.adjusted - count + 1) := by
      rw [adjusted]
      omega
    have exact : d.size = (d.coefficient * 10 ^ (count - d.digitCount) : ℕ) *
        10 ^ (d.adjusted - count + 1) := by
      conv_lhs => rw [size, split, zpow_ten_add, zpow_natCast]
      push_cast
      ring
    refine ⟨d.coefficient * 10 ^ (count - d.digitCount), ?_, ?_, ?_⟩
    · rw [Nat.sub_eq_zero_of_le (by omega), dropDigits_zero]
      exact exact
    · rw [exact, mul_div_cancel_right₀ _ (zpow_ten_pos _).ne', sub_self, abs_zero]
      norm_num
    · intro target _ near
      rw [exact, mul_div_cancel_right₀ _ (zpow_ten_pos _).ne', abs_le] at near
      generalize d.coefficient * 10 ^ (count - d.digitCount) = kept at near ⊢
      have below : kept < target + 1 := by
        have : (kept : ℚ) < target + 1 := by linarith
        exact_mod_cast this
      have above : target < kept + 1 := by
        have : (target : ℚ) < kept + 1 := by linarith
        exact_mod_cast this
      omega

/-! ## Numbers that are rounded to one -/

section

variable {d : Decimal} {count : Nat}

/-- The leading digit of a number near to one stands before or right behind the point. -/
theorem adjusted_of_size_near_one
    (nonzero : d.coefficient ≠ 0)
    (atLeast : 1 / 10 < d.size)
    (atMost : d.size < 10) :
    d.adjusted = -1 ∨ d.adjusted = 0 := by
  have aboveTenth : (10 : ℚ) ^ (-1 : ℤ) < 10 ^ (d.adjusted + 1) := by
    calc (10 : ℚ) ^ (-1 : ℤ)
        = 1 / 10 := by norm_num
      _ < d.size := atLeast
      _ < 10 ^ (d.adjusted + 1) := d.size_lt_zpow
  have belowTen : (10 : ℚ) ^ d.adjusted < 10 ^ (1 : ℤ) := by
    calc (10 : ℚ) ^ d.adjusted
        ≤ d.size := zpow_adjusted_le nonzero
      _ < 10 ^ (1 : ℤ) := by rwa [zpow_one]
  rw [zpow_lt_zpow_iff_right₀ (by norm_num)] at aboveTenth belowTen
  omega

/-- Rounding to two digits or more moves a number by a twentieth of it at most. -/
theorem size_near_one_of_rounded
    (several : 2 ≤ count)
    (nonzero : d.coefficient ≠ 0)
    (rounded : (d.roundTo count).size = 1) :
    |d.size - 1| ≤ d.size / 20 := by
  obtain ⟨kept, exact, near, -⟩ := d.roundTo_nearest (by omega : 0 < count)
  rw [← exact, rounded] at near
  have small : d.lastUnit count ≤ d.size / 10 := by
    calc d.lastUnit count
        ≤ 10 ^ (d.adjusted - 1) := zpow_le_zpow_right₀ (by norm_num) (by omega)
      _ = 10 ^ d.adjusted / 10 := zpow_sub_one₀ (by norm_num) _
      _ ≤ d.size / 10 := by
          have := zpow_adjusted_le nonzero
          linarith
  linarith

/-- How close to one a number must be for being rounded to it, by its last place kept. -/
theorem size_roundTo_eq_one_iff_of_lastPlace
    (several : 0 < count)
    (places : Nat)
    (fractional : 0 < places)
    (lastPlace : d.adjusted - count + 1 = -places) :
    (d.roundTo count).size = 1 ↔ |d.size - 1| ≤ 1 / (2 * 10 ^ places) := by
  obtain ⟨kept, exact, near, unique⟩ := d.roundTo_nearest several
  have unit : d.lastUnit count = 1 / 10 ^ places := by
    rw [lastUnit, lastPlace, zpow_neg, zpow_natCast, one_div]
  have one : ((10 ^ places : ℕ) : ℚ) * d.lastUnit count = 1 := by
    rw [unit, Nat.cast_pow, Nat.cast_ofNat, mul_one_div_cancel (by positivity)]
  rw [mul_comm 2, ← div_div, ← unit]
  constructor
  · intro rounded
    rwa [← exact, rounded] at near
  · intro close
    have even : Even (10 ^ places) := (Nat.even_pow.mpr ⟨by decide, by omega⟩)
    rw [exact, unique _ even (one.symm ▸ close), one]

/--
The numbers that are rounded to one.  Those below one have a digit more
behind the point, so they must be ten times as close to it.
-/
theorem size_roundTo_eq_one_iff
    (several : 2 ≤ count)
    (nonzero : d.coefficient ≠ 0) :
    (d.roundTo count).size = 1 ↔
      1 - 5 / 10 ^ (count + 1) ≤ d.size ∧ d.size ≤ 1 + 5 / 10 ^ count := by
  have halfUnit (places : Nat) : (1 : ℚ) / (2 * 10 ^ places) = 5 / 10 ^ (places + 1) := by
    rw [pow_succ]
    field_simp
    norm_num
  have narrow : (5 : ℚ) / 10 ^ count ≤ 1 / 20 := by
    obtain ⟨more, rfl⟩ := Nat.exists_eq_add_of_le several
    have : (1 : ℚ) ≤ 10 ^ more := one_le_pow₀ (by norm_num)
    rw [pow_add, div_le_div_iff₀ (by positivity) (by norm_num)]
    linarith
  have narrower : (5 : ℚ) / 10 ^ (count + 1) ≤ 5 / 10 ^ count := by
    apply div_le_div_of_nonneg_left (by norm_num) (by positivity)
    exact pow_le_pow_right₀ (by norm_num) (by omega)
  have positive : (0 : ℚ) < 5 / 10 ^ (count + 1) := by positivity
  by_cases near : d.adjusted = -1 ∨ d.adjusted = 0
  · rcases near with behindPoint | beforePoint
    · have belowOne : d.size < 1 := by simpa [behindPoint] using d.size_lt_zpow
      rw [size_roundTo_eq_one_iff_of_lastPlace (by omega) count (by omega) (by omega), halfUnit,
        abs_le]
      constructor
      · rintro ⟨atLeast, _⟩
        constructor <;> linarith
      · rintro ⟨atLeast, _⟩
        constructor <;> linarith
    · have atLeastOne : 1 ≤ d.size := by simpa [beforePoint] using zpow_adjusted_le nonzero
      rw [size_roundTo_eq_one_iff_of_lastPlace (by omega) (count - 1) (by omega) (by omega),
        halfUnit, Nat.sub_add_cancel (by omega), abs_le]
      constructor
      · rintro ⟨_, atMost⟩
        constructor <;> linarith
      · rintro ⟨_, atMost⟩
        constructor <;> linarith
  · -- Elsewhere rounding moves a number too little to reach one.
    constructor
    · intro rounded
      have moved := abs_le.mp (size_near_one_of_rounded several nonzero rounded)
      exact absurd (adjusted_of_size_near_one nonzero (by linarith) (by linarith)) near
    · rintro ⟨atLeast, atMost⟩
      exact absurd (adjusted_of_size_near_one nonzero (by linarith) (by linarith)) near

end

/-! ## The size in the working context -/

theorem size_roundTo_eq_zero_iff
    {d : Decimal}
    {count : Nat}
    (several : 0 < count) :
    (d.roundTo count).size = 0 ↔ d.size = 0 := by
  constructor
  · intro rounded
    by_contra nonzero
    obtain ⟨kept, exact, near, -⟩ := d.roundTo_nearest several
    have unit := d.lastUnit_pos count
    have small : d.lastUnit count ≤ d.size := by
      calc d.lastUnit count
          ≤ 10 ^ d.adjusted := zpow_le_zpow_right₀ (by norm_num) (by omega)
        _ ≤ d.size := zpow_adjusted_le (mt d.size_eq_zero_iff.mpr nonzero)
    rw [← exact, rounded, sub_zero, abs_le] at near
    linarith
  · intro zero
    have coefficient : d.coefficient = 0 * 10 ^ (d.digitCount - count) := by
      rw [d.size_eq_zero_iff.mp zero, zero_mul]
    rw [size_roundTo several, size_dropDigits_of_eq_mul coefficient, zero]

section

variable {d magnitude : Decimal} (sized : d.magnitude = .ok magnitude)

include sized

/-- The working context computes the rounded size. -/
theorem toRat_of_magnitude : magnitude.toRat = (d.roundTo precision).size := by
  unfold Decimal.magnitude at sized
  split at sized
  · rename_i zero
    have rounded : (d.roundTo precision).size = 0 :=
      (size_roundTo_eq_zero_iff (by decide)).mpr (d.size_eq_zero_iff.mpr zero)
    cases sized
    rw [rounded]
    simp [toRat, size]
  · dsimp only at sized
    split at sized
    · cases sized
    · cases sized
      rfl

/-- The working context never computes the size zero for another number than zero. -/
theorem isNat_zero_of_magnitude : magnitude.isNat 0 = true ↔ d.size = 0 := by
  rw [isNat_iff, toRat_of_magnitude sized, Nat.cast_zero, size_roundTo_eq_zero_iff (by decide)]

/-- The working context computes the size one for all numbers that are close enough to it. -/
theorem isNat_one_of_magnitude :
    magnitude.isNat 1 = true ↔ 1 - 5 / 10 ^ 29 ≤ d.size ∧ d.size ≤ 1 + 5 / 10 ^ 28 := by
  rw [isNat_iff, toRat_of_magnitude sized, Nat.cast_one]
  by_cases zero : d.coefficient = 0
  · have size_eq := d.size_eq_zero_iff.mpr zero
    have rounded : (d.roundTo precision).size = 0 :=
      (size_roundTo_eq_zero_iff (by decide)).mpr size_eq
    rw [rounded, size_eq]
    norm_num
  · exact size_roundTo_eq_one_iff (by decide) zero

end

end Decimal
end Concord
