import Concord.Proofs.Number.Size
import Concord.Proofs.Plural.Limits
import Concord.Proofs.Plural.PlainNotation

/-!
# Exact operands

The operands of a number that is not too long describe it exactly: whole part
and fraction make up its size, no digit that is visible is lost, and none is
invented.  A number that is too long has no operands rather than wrong ones.
-/

namespace Concord

namespace Operands

/-! ## The parts of a decimal -/

/-- The number in units of its last visible place. -/
def units (d : Decimal) : Nat :=
  d.coefficient * 10 ^ d.exponent.toNat

/-- Counted in units of its last visible place, a number is its size moved by all places. -/
theorem units_eq_size_mul (d : Decimal) : (units d : ℚ) = d.size * 10 ^ visiblePlaces d := by
  have split : d.exponent = (d.exponent.toNat : ℤ) + -(visiblePlaces d : ℤ) := by
    rw [visiblePlaces]
    omega
  have power : (10 : ℚ) ^ visiblePlaces d ≠ 0 := by positivity
  rw [Decimal.size, split, Decimal.zpow_ten_add, zpow_neg, zpow_natCast, zpow_natCast, mul_assoc,
    inv_mul_cancel_right₀ power, units]
  push_cast
  rfl

/-- Divided by a power of ten for the visible places, the units give the whole part. -/
theorem wholePart_eq_div (d : Decimal) : wholePart d = units d / 10 ^ visiblePlaces d := by
  rw [wholePart_eq, (ofDigitChars_parts d).1]
  rfl

/-- What that division leaves is the fraction. -/
theorem fractionPart_eq_mod (d : Decimal) : fractionPart d = units d % 10 ^ visiblePlaces d := by
  rw [fractionPart_eq, (ofDigitChars_parts d).2]
  rfl

theorem fractionPart_lt (d : Decimal) : fractionPart d < 10 ^ visiblePlaces d := by
  rw [fractionPart_eq_mod]
  exact Nat.mod_lt _ (by positivity)

/-- Whole part and fraction make up the number. -/
theorem size_eq_parts (d : Decimal) :
    d.size = wholePart d + fractionPart d / 10 ^ visiblePlaces d := by
  have power : (0 : ℚ) < 10 ^ visiblePlaces d := by positivity
  have divided : (units d : ℚ) = 10 ^ visiblePlaces d * wholePart d + fractionPart d := by
    rw [wholePart_eq_div, fractionPart_eq_mod]
    exact_mod_cast (Nat.div_add_mod (units d) (10 ^ visiblePlaces d)).symm
  calc d.size
      = d.size * 10 ^ visiblePlaces d / 10 ^ visiblePlaces d :=
        (mul_div_cancel_right₀ _ power.ne').symm
    _ = (10 ^ visiblePlaces d * wholePart d + fractionPart d) / 10 ^ visiblePlaces d := by
        rw [← units_eq_size_mul, divided]
    _ = wholePart d + fractionPart d / 10 ^ visiblePlaces d := by
        rw [add_div, mul_div_cancel_left₀ _ power.ne']

/-- A fraction is zero exactly if the number is whole. -/
theorem fractionPart_eq_zero_iff (d : Decimal) :
    fractionPart d = 0 ↔ ∃ n : ℤ, d.toRat = n := by
  constructor
  · intro none
    have whole : |d.toRat| = wholePart d := by
      rw [Decimal.abs_toRat, size_eq_parts, none, Nat.cast_zero, zero_div, add_zero]
    rcases eq_or_eq_neg_of_abs_eq whole with positive | negative
    · exact ⟨wholePart d, by exact_mod_cast positive⟩
    · exact ⟨-wholePart d, by exact_mod_cast negative⟩
  · rintro ⟨n, whole⟩
    have size : d.size = n.natAbs := by
      rw [← Decimal.abs_toRat, whole, Nat.cast_natAbs, Int.cast_abs]
    have multiple : units d = n.natAbs * 10 ^ visiblePlaces d := by
      have := units_eq_size_mul d
      rw [size] at this
      exact_mod_cast this
    rw [fractionPart_eq_mod, multiple, Nat.mul_mod_left]

/-! ## Dropping zeros -/

/-- Dropping zeros at the end takes powers of ten off a number. -/
theorem dropZeros_mul_pow (count n : Nat) :
    ∃ zeros ≤ count, n = dropZeros count n * 10 ^ zeros := by
  induction count generalizing n with
  | zero => exact ⟨0, Nat.le_refl 0, (Nat.mul_one n).symm⟩
  | succ count inductionHypothesis =>
      unfold dropZeros
      split
      · rename_i ends
        obtain ⟨zeros, few, exact⟩ := inductionHypothesis (n / 10)
        refine ⟨zeros + 1, Nat.succ_le_succ few, ?_⟩
        rw [Nat.pow_succ, ← Nat.mul_assoc, ← exact,
          Nat.div_mul_cancel (Nat.dvd_of_mod_eq_zero ends)]
      · exact ⟨0, Nat.zero_le _, (Nat.mul_one n).symm⟩

/-- What is left of a number with so many digits does not end in a zero. -/
theorem not_dvd_dropZeros
    {count n : Nat}
    (small : n < 10 ^ count) :
    dropZeros count n = 0 ∨ ¬ 10 ∣ dropZeros count n := by
  induction count generalizing n with
  | zero => exact .inl (Nat.lt_one_iff.mp small)
  | succ count inductionHypothesis =>
      unfold dropZeros
      split
      · apply inductionHypothesis
        rw [Nat.div_lt_iff_lt_mul (by decide), ← Nat.pow_succ]
        exact small
      · rename_i ends
        exact .inr fun divides => ends (Nat.mod_eq_zero_of_dvd divides)

/-! ## What operands say -/

/-- Operands that describe a decimal exactly. -/
structure Describes (op : Operands) (d : Decimal) : Prop where
  /-- The value itself is kept. -/
  value : op.value = d
  /-- Whole part and fraction make up the size of the number. -/
  size : |d.toRat| = op.whole + op.fraction / 10 ^ op.places
  /-- The fraction has no more digits than there are visible places. -/
  fraction_lt : op.fraction < 10 ^ op.places
  /-- As many places are visible as the exponent has left of the point. -/
  places : (op.places : ℤ) = max 0 (-d.exponent)
  /-- The significant digits are those of the fraction without zeros at the end. -/
  significant : ∃ zeros ≤ op.places, op.fraction = op.significant * 10 ^ zeros
  /-- The significant digits do not end in a zero, unless there are none. -/
  significant_ends : op.significant = 0 ∨ ¬ 10 ∣ op.significant
  /-- The operands are those of an integer exactly if the number is one. -/
  isInteger : op.isInteger = true ↔ ∃ n : ℤ, d.toRat = n
  /-- They have no visible places exactly if their number of places is zero. -/
  hasNoPlaces : op.hasNoPlaces = true ↔ op.places = 0

/-- A decimal that is taken apart gives its parts and its rounded size. -/
theorem parts_of_ofDecimal
    {d : Decimal}
    {op : Operands}
    (taken : ofDecimal d = .ok op) :
    d.magnitude = .ok op.magnitude ∧
      op = ⟨d, op.magnitude, wholePart d, visiblePlaces d, fractionPart d,
        dropZeros (visiblePlaces d) (fractionPart d)⟩ := by
  obtain ⟨wholeShort, placesShort⟩ := (ofDecimal_ok_iff d).mp ⟨op, taken⟩
  unfold ofDecimal at taken
  rw [checkDigitCount_of_le wholeShort, checkDigitCount_of_le placesShort] at taken
  cases sized : d.magnitude with
  | error error =>
      rw [sized] at taken
      cases taken
  | ok magnitude =>
      rw [sized] at taken
      cases taken
      exact ⟨rfl, rfl⟩

/-- What a decimal is taken apart into describes it. -/
theorem describes_of_ofDecimal
    {d : Decimal}
    {op : Operands}
    (taken : ofDecimal d = .ok op) :
    op.Describes d := by
  rw [(parts_of_ofDecimal taken).2]
  constructor
  case value => rfl
  case size => rw [Decimal.abs_toRat, size_eq_parts]
  case fraction_lt => exact fractionPart_lt d
  case places =>
    dsimp only
    rw [visiblePlaces]
    omega
  case significant => exact dropZeros_mul_pow (visiblePlaces d) (fractionPart d)
  case significant_ends => exact not_dvd_dropZeros (fractionPart_lt d)
  case isInteger => rw [isInteger, decide_eq_true_iff, fractionPart_eq_zero_iff]
  case hasNoPlaces => rw [hasNoPlaces, decide_eq_true_iff]

theorem isShort_iff_showsAtMost (d : Decimal) : IsShort d ↔ d.ShowsAtMost digitLimit := by
  rw [IsShort, Decimal.ShowsAtMost, length_beforePoint, length_behindPoint]

end Operands

namespace Value

/-- A whole number that can be written stands for itself. -/
theorem decimal?_integer
    {n : Int}
    (writable : Concord.isWritable n = true) :
    (integer n).decimal? = some (.ofInt n) := by
  rw [decimal?, numeral?, Option.bind_some, ExtendedDecimal.ofText?_repr writable]
  rfl

/-- The finite number that a value stands for; a whole number that is too long to be written too. -/
def standsFor? : Value -> Option Decimal
  | .integer n => some (.ofInt n)
  | value => value.decimal?

/-- A whole number shows no more digits than the limit exactly if it can be written. -/
theorem showsAtMost_ofInt_iff (n : Int) :
    (Decimal.ofInt n).ShowsAtMost digitLimit ↔ Concord.isWritable n = true := by
  have exponent : (Decimal.ofInt n).exponent = 0 := rfl
  have positive := (Decimal.ofInt n).digitCount_pos
  have places : Operands.visiblePlaces (Decimal.ofInt n) = 0 := rfl
  have digits : Operands.wholeDigits (Decimal.ofInt n) = (Decimal.ofInt n).digitCount := by
    unfold Operands.wholeDigits
    split
    · rename_i zero
      rw [Decimal.digitCount, Decimal.digits, zero, Nat.toDigits_zero, List.length_singleton]
    · rw [Decimal.adjusted, exponent]
      omega
  rw [← Operands.isShort_iff_showsAtMost, Operands.IsShort, digits, places,
    and_iff_left (Nat.zero_le _), Decimal.digitCount_ofInt_le_iff]

theorem standsFor?_eq_decimal?
    {value : Value}
    (writable : ¬ value.isUnwritableInteger = true) :
    value.standsFor? = value.decimal? := by
  cases value with
  | integer n =>
      have short : Concord.isWritable n = true := by simpa [isUnwritableInteger] using writable
      exact (decimal?_integer short).symm
  | _ => rfl

/-- Only a whole number is refused before it is read, and it has too many digits then. -/
theorem standsFor?_of_isUnwritableInteger
    {value : Value}
    (unwritable : value.isUnwritableInteger = true) :
    ∃ d, value.standsFor? = some d ∧ ¬ d.ShowsAtMost digitLimit := by
  cases value with
  | integer n =>
      refine ⟨.ofInt n, rfl, ?_⟩
      rw [showsAtMost_ofInt_iff]
      simpa [isUnwritableInteger] using unwritable
  | _ => cases unwritable

/-- A value is taken apart as the number that it stands for, unless that is too long. -/
theorem operands_of_standsFor?
    {value : Value}
    {d : Decimal}
    (stands : value.standsFor? = some d) :
    (d.ShowsAtMost digitLimit ->
      ∃ op, Operands.ofDecimal d = .ok op ∧ value.operands = .ok (some op)) ∧
    (¬ d.ShowsAtMost digitLimit -> ∃ error, value.operands = .error error) := by
  by_cases unwritable : value.isUnwritableInteger = true
  · obtain ⟨long, standsFor, tooLong⟩ := standsFor?_of_isUnwritableInteger unwritable
    rw [stands] at standsFor
    cases standsFor
    exact ⟨fun short => absurd short tooLong, fun _ => ⟨.unwritable, if_pos unwritable⟩⟩
  · rw [standsFor?_eq_decimal? unwritable] at stands
    rw [operands, if_neg unwritable, stands, ← Operands.isShort_iff_showsAtMost,
      ← Operands.ofDecimal_ok_iff]
    dsimp only
    cases Operands.ofDecimal d with
    | error error => exact ⟨fun short => absurd short (by simp), fun _ => ⟨error, rfl⟩⟩
    | ok op => exact ⟨fun _ => ⟨op, rfl, rfl⟩, fun long => absurd ⟨op, rfl⟩ long⟩

end Value

end Concord
