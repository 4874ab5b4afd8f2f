import Concord.Proofs.Number.Nearest
import Concord.Proofs.Plural.Exactness
import Concord.Proofs.Plural.Questions

/-!
# Spelling

A number can be written with a sign, zeros in front, underscores, blanks
around it, the digits of any script or an exponent, and it can be given as an
integer, a float, a decimal or a text.  Its category depends on the number and
on how many fraction digits are visible, and on nothing else.
-/

namespace Concord

/-- The number that a value expresses; a float with a fraction expresses what it is written as. -/
inductive Value.Expresses : Value -> Decimal -> Prop
  | integer (n : Int) : Expresses (.integer n) (.ofInt n)
  | wholeFloat {bits : UInt64} {n : Int} :
      (Binary64.ofBits bits).whole? = some n -> Expresses (.float (.ofBits bits)) (.ofInt n)
  | fractionalFloat {float : Binary64} {d : Decimal} :
      float.whole? = none ->
      ExtendedDecimal.ofText? (Value.float float).shown = some (.finite d) ->
      Expresses (.float float) d
  | decimal {d : Decimal} :
      ExtendedDecimal.inRange d = true -> Expresses (.decimal (.finite d)) d
  | text {text : String} {d : Decimal} :
      ExtendedDecimal.ofText? text = some (.finite d) -> Expresses (.text text) d

/-! ## What a value expresses is what it is classified as -/

namespace Binary64

theorem bounds_of_ofBits
    {bits : UInt64}
    {negative : Bool}
    {significand : Nat}
    {exponent : Int}
    (pattern : ofBits bits = .finite negative significand exponent) :
    significand < 2 ^ 53 ∧ exponent.toNat ≤ 971 := by
  have fraction : bits.toNat % hiddenBit < hiddenBit := Nat.mod_lt _ (by decide)
  have biased : bits.toNat / hiddenBit % 0x800 < 0x800 := Nat.mod_lt _ (by decide)
  unfold ofBits at pattern
  generalize bits.toNat % hiddenBit = fraction at *
  generalize bits.toNat / hiddenBit % 0x800 = biased at *
  dsimp only at pattern
  rw [hiddenBit] at *
  split at pattern
  · split at pattern <;> cases pattern
  · split at pattern
    · cases pattern
      exact ⟨by omega, by decide⟩
    · cases pattern
      rw [leastExponent]
      exact ⟨by omega, by omega⟩

/-- A bit makes no more than one digit. -/
theorem digitCount_le_of_shifted
    {n : Int}
    {significand shift unit bits most : Nat}
    (size : n.natAbs = significand / unit * 2 ^ shift)
    (small : significand < 2 ^ bits)
    (low : shift ≤ most)
    (positive : 0 < bits + most) :
    (Decimal.ofInt n).digitCount ≤ bits + most := by
  have bound : n.natAbs < 10 ^ (bits + most) :=
    calc n.natAbs
        = significand / unit * 2 ^ shift := size
      _ ≤ significand * 2 ^ most :=
          Nat.mul_le_mul (Nat.div_le_self _ _) (Nat.pow_le_pow_right (by decide) low)
      _ < 2 ^ bits * 2 ^ most := Nat.mul_lt_mul_of_pos_right small (by positivity)
      _ = 2 ^ (bits + most) := (Nat.pow_add 2 bits most).symm
      _ ≤ 10 ^ (bits + most) := Nat.pow_le_pow_left (by decide) _
  exact (Decimal.digitCount_le_iff positive).mpr bound

/-- A whole number of the binary format has a few hundred digits. -/
theorem isWritable_of_whole?
    {bits : UInt64}
    {n : Int}
    (whole : (ofBits bits).whole? = some n) :
    isWritable n = true := by
  cases pattern : ofBits bits with
  | undefined =>
      rw [pattern] at whole
      cases whole
  | infinite negative =>
      rw [pattern] at whole
      cases whole
  | finite negative significand exponent =>
      obtain ⟨small, low⟩ := bounds_of_ofBits pattern
      have size : n.natAbs = significand / 2 ^ (-exponent).toNat * 2 ^ exponent.toNat := by
        rw [pattern, whole?] at whole
        dsimp only at whole
        split at whole
        · cases whole
          split
          · exact Int.natAbs_neg _
          · rfl
        · cases whole
      have few := digitCount_le_of_shifted size small low (by decide)
      rw [← Decimal.digitCount_ofInt_le_iff, digitLimit]
      omega

end Binary64

namespace Value

/-- A value stands for the number that its numeral is read as. -/
theorem decimal?_of_numeral?
    {value : Value}
    {text : String}
    {d : Decimal}
    (numeral : value.numeral? = some text)
    (read : ExtendedDecimal.ofText? text = some (.finite d)) :
    value.decimal? = some d := by
  rw [decimal?, numeral, Option.bind_some, read]
  rfl

/-- A float is classified as it is shown. -/
theorem numeral?_float
    {value : Binary64}
    {d : Decimal}
    (finite : ExtendedDecimal.ofText? (float value).shown = some (.finite d)) :
    (float value).numeral? = some (float value).shown := by
  cases value with
  | undefined =>
      have word : ExtendedDecimal.ofText? (float .undefined).shown =
          some (.undefined false false 0) := by rfl
      rw [word] at finite
      cases finite
  | infinite negative =>
      have word : ExtendedDecimal.ofText? (float (.infinite negative)).shown =
          some (.infinite negative) := by cases negative <;> rfl
      rw [word] at finite
      cases finite
  | finite negative significand exponent => rfl

theorem shown_of_whole?
    {value : Binary64}
    {n : Int}
    (whole : value.whole? = some n) :
    (float value).shown = Int.repr n := by
  simp [shown, whole]

/-- A value stands for the number that it expresses. -/
theorem Expresses.standsFor?
    {value : Value}
    {d : Decimal}
    (expresses : value.Expresses d) :
    value.standsFor? = some d := by
  cases expresses with
  | integer n => rfl
  | @wholeFloat bits n whole =>
      have read : ExtendedDecimal.ofText? (float (.ofBits bits)).shown =
          some (.finite (.ofInt n)) := by
        rw [shown_of_whole? whole,
          ExtendedDecimal.ofText?_repr (Binary64.isWritable_of_whole? whole)]
      exact decimal?_of_numeral? (numeral?_float read) read
  | fractionalFloat _ read => exact decimal?_of_numeral? (numeral?_float read) read
  | decimal readable => exact decimal?_of_numeral? rfl (ExtendedDecimal.ofText?_text readable)
  | @text text d read =>
      rw [← ExtendedDecimal.ofText?_stripped] at read
      exact decimal?_of_numeral? rfl read

end Value

/-! ## What rules see of a number -/

namespace Operands

/-- Operands that no rule can tell apart. -/
structure Agree (left right : Operands) : Prop where
  /-- Both values are the same number, if either is a natural number. -/
  isNat : ∀ n, left.value.isNat n = right.value.isNat n
  /-- Both values lie below the same bounds. -/
  isBelow : ∀ n, left.value.isBelow n = right.value.isBelow n
  /-- Both values lie above the same bounds. -/
  isAbove : ∀ n, left.value.isAbove n = right.value.isAbove n
  /-- Both sizes are zero or neither is. -/
  isZero : left.magnitude.isNat 0 = right.magnitude.isNat 0
  /-- Both sizes are one or neither is. -/
  isOne : left.magnitude.isNat 1 = right.magnitude.isNat 1
  /-- They have the same whole part. -/
  whole : left.whole = right.whole
  /-- They have the same number of visible places. -/
  places : left.places = right.places
  /-- They have the same visible fraction. -/
  fraction : left.fraction = right.fraction
  /-- They have the same significant digits. -/
  significant : left.significant = right.significant

/-- What operands agree in answers every question that a rule asks. -/
theorem Agree.sameAnswers
    {left right : Operands}
    (agree : left.Agree right) :
    left.SameAnswers right where
  isNat n _ := agree.isNat n
  isBelow n _ _ := agree.isBelow n
  isAbove n _ _ := agree.isAbove n
  isZero := agree.isZero
  isOne := agree.isOne
  whole n _ := by rw [agree.whole]
  lastDigits := by rw [agree.whole]
  places := agree.places
  fraction := agree.fraction

/-- Every rule sorts by what operands agree in. -/
theorem Agree.category
    {left right : Operands}
    (agree : left.Agree right)
    (rule : PluralRule) :
    rule.category left = rule.category right :=
  agree.sameAnswers.category rule

/-- A number has no more digits before the point than the power of ten that it is below. -/
theorem wholeDigits_le_iff
    {d : Decimal}
    {count : Nat}
    (positive : 0 < count) :
    wholeDigits d ≤ count ↔ d.size < 10 ^ count := by
  have power : (0 : ℚ) < 10 ^ count := by positivity
  unfold wholeDigits
  split
  · rename_i zero
    rw [d.size_eq_zero_iff.mpr zero]
    exact ⟨fun _ => power, fun _ => positive⟩
  · rename_i nonzero
    constructor
    · intro few
      calc d.size
          < 10 ^ (d.adjusted + 1) := d.size_lt_zpow
        _ ≤ 10 ^ (count : ℤ) := zpow_le_zpow_right₀ (by norm_num) (by omega)
        _ = 10 ^ count := zpow_natCast _ _
    · intro below
      have leading : (10 : ℚ) ^ d.adjusted < 10 ^ (count : ℤ) := by
        rw [zpow_natCast]
        exact (Decimal.zpow_adjusted_le nonzero).trans_lt below
      rw [zpow_lt_zpow_iff_right₀ (by norm_num)] at leading
      omega

section

variable {left right : Decimal}
  (same : left.toRat = right.toRat)
  (samePlaces : visiblePlaces left = visiblePlaces right)

include same samePlaces

theorem isShort_congr : IsShort left ↔ IsShort right := by
  rw [IsShort, IsShort, wholeDigits_le_iff (by decide), wholeDigits_le_iff (by decide),
    Decimal.size_congr same, samePlaces]

/-- Equal numbers with as many places have the same parts. -/
theorem agree_of_ofDecimal
    {leftOp rightOp : Operands}
    (leftTaken : ofDecimal left = .ok leftOp)
    (rightTaken : ofDecimal right = .ok rightOp) :
    leftOp.Agree rightOp := by
  obtain ⟨leftSized, leftParts⟩ := parts_of_ofDecimal leftTaken
  obtain ⟨rightSized, rightParts⟩ := parts_of_ofDecimal rightTaken
  have size := Decimal.size_congr same
  have sameUnits : units left = units right := by
    have : (units left : ℚ) = units right := by
      rw [units_eq_size_mul, units_eq_size_mul, size, samePlaces]
    exact_mod_cast this
  have whole : wholePart left = wholePart right := by
    rw [wholePart_eq_div, wholePart_eq_div, sameUnits, samePlaces]
  have fraction : fractionPart left = fractionPart right := by
    rw [fractionPart_eq_mod, fractionPart_eq_mod, sameUnits, samePlaces]
  rw [leftParts, rightParts]
  constructor
  case isNat =>
    intro n
    rw [Bool.eq_iff_iff, Decimal.isNat_iff, Decimal.isNat_iff, same]
  case isBelow =>
    intro n
    rw [Bool.eq_iff_iff, Decimal.isBelow_iff, Decimal.isBelow_iff, same]
  case isAbove =>
    intro n
    rw [Bool.eq_iff_iff, Decimal.isAbove_iff, Decimal.isAbove_iff, same]
  case isZero =>
    rw [Bool.eq_iff_iff, Decimal.isNat_zero_of_magnitude leftSized,
      Decimal.isNat_zero_of_magnitude rightSized, size]
  case isOne =>
    rw [Bool.eq_iff_iff, Decimal.isNat_one_of_magnitude leftSized,
      Decimal.isNat_one_of_magnitude rightSized, size]
  case whole => exact whole
  case places => exact samePlaces
  case fraction => exact fraction
  case significant => rw [samePlaces, fraction]

end

end Operands

/-- A value that cannot be taken apart has no category. -/
theorem toOption_pluralCategory_of_error
    {value : Value}
    {error : NumberError}
    (fails : value.operands = .error error)
    (rule : Option PluralRule) :
    (pluralCategory rule value).toOption = none := by
  rw [pluralCategory, fails]
  rfl

/--
Two values that express the same number with as many visible fraction digits
are of the same category in every locale, and if one is too long to be
classified, so is the other.
-/
theorem pluralCategory_ignores_spelling
    {left right : Value}
    {leftNumber rightNumber : Decimal}
    (leftExpresses : left.Expresses leftNumber)
    (rightExpresses : right.Expresses rightNumber)
    (same : leftNumber.toRat = rightNumber.toRat)
    (samePlaces : Operands.visiblePlaces leftNumber = Operands.visiblePlaces rightNumber)
    (locale : Locale) :
    (pluralCategory (PluralRule.ofLocale? locale) left).toOption =
      (pluralCategory (PluralRule.ofLocale? locale) right).toOption := by
  obtain ⟨leftShort, leftLong⟩ := Value.operands_of_standsFor? leftExpresses.standsFor?
  obtain ⟨rightShort, rightLong⟩ := Value.operands_of_standsFor? rightExpresses.standsFor?
  have alike : leftNumber.ShowsAtMost digitLimit ↔ rightNumber.ShowsAtMost digitLimit := by
    rw [← Operands.isShort_iff_showsAtMost, ← Operands.isShort_iff_showsAtMost]
    exact Operands.isShort_congr same samePlaces
  by_cases short : leftNumber.ShowsAtMost digitLimit
  · obtain ⟨leftOp, leftTaken, leftFound⟩ := leftShort short
    obtain ⟨rightOp, rightTaken, rightFound⟩ := rightShort (alike.mp short)
    have agree := Operands.agree_of_ofDecimal same samePlaces leftTaken rightTaken
    rw [pluralCategory, pluralCategory, leftFound, rightFound]
    cases PluralRule.ofLocale? locale with
    | none => rfl
    | some rule => exact congrArg some (agree.category rule)
  · obtain ⟨leftError, leftFails⟩ := leftLong short
    obtain ⟨rightError, rightFails⟩ := rightLong (mt alike.mpr short)
    rw [toOption_pluralCategory_of_error leftFails, toOption_pluralCategory_of_error rightFails]

/-- One hundred, as a text with a sign and zeros in front, and as a decimal with an exponent. -/
theorem pluralCategory_ignores_spelling_hundred :
    (pluralCategory (PluralRule.ofLocale? (Locale.ofName "ru")) (.text " +0_100 ")).toOption =
      (pluralCategory (PluralRule.ofLocale? (Locale.ofName "ru"))
        (.decimal (.finite ⟨false, 1, 2⟩))).toOption :=
  pluralCategory_ignores_spelling
    (.text (by rfl : ExtendedDecimal.ofText? " +0_100 " = some (.finite ⟨false, 100, 0⟩)))
    (.decimal (by rfl))
    (by norm_num [Decimal.toRat, Decimal.size])
    (by rfl)
    (Locale.ofName "ru")

end Concord
