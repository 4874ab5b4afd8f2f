import Concord.Proofs.Number.Nearest
import Concord.Proofs.Plural.Display
import Concord.Proofs.Plural.Exactness
import Concord.Proofs.Plural.Questions

/-!
# The last two digits

No rule of any language looks at a whole number beyond ten except through its
sign and its last two digits.  Going on by a hundred, away from zero, therefore
leaves the category as it is, and the whole numbers up to one hundred and ten
on both sides of zero settle the category of all others.
-/

namespace Concord

/-- Two whole numbers beyond ten that have the same sign and end in the same two digits. -/
structure EndAlike (left right : Int) : Prop where
  /-- The first number is beyond ten, on either side of zero. -/
  leftLarge : 11 ≤ left.natAbs
  /-- So is the second. -/
  rightLarge : 11 ≤ right.natAbs
  /-- Both are positive or neither is. -/
  sign : 0 < left ↔ 0 < right
  /-- Their last two digits are the same. -/
  lastDigits : left.natAbs % 100 = right.natAbs % 100

namespace Operands

/-- A whole number is taken apart into its size and no fraction. -/
theorem parts_of_ofInt
    {n : Int}
    {op : Operands}
    (taken : ofDecimal (.ofInt n) = .ok op) :
    op.value = .ofInt n ∧ op.whole = n.natAbs ∧ op.places = 0 ∧ op.fraction = 0 := by
  have places : visiblePlaces (.ofInt n) = 0 := rfl
  have units : units (.ofInt n) = n.natAbs := Nat.mul_one n.natAbs
  rw [(parts_of_ofDecimal taken).2]
  dsimp only
  rw [wholePart_eq_div, fractionPart_eq_mod, units, places, Nat.pow_zero, Nat.div_one, Nat.mod_one]
  exact ⟨rfl, rfl, rfl, rfl⟩

/-- The rounded size of a whole number beyond ten is neither zero nor one. -/
theorem magnitude_of_large
    {n : Int}
    {magnitude : Decimal}
    (large : 11 ≤ n.natAbs)
    (sized : (Decimal.ofInt n).magnitude = .ok magnitude) :
    magnitude.isNat 0 = false ∧ magnitude.isNat 1 = false := by
  have size : (11 : ℚ) ≤ (Decimal.ofInt n).size := by
    rw [← Decimal.abs_toRat, Decimal.toRat_ofInt, ← Int.cast_abs, Int.abs_eq_natAbs]
    exact_mod_cast large
  rw [Bool.eq_false_iff, Bool.eq_false_iff, ne_eq, ne_eq,
    Decimal.isNat_zero_of_magnitude sized, Decimal.isNat_one_of_magnitude sized]
  constructor
  · intro zero
    linarith
  · rintro ⟨-, atMost⟩
    linarith

/-- Numbers beyond ten that end alike give a rule the same answers. -/
theorem sameAnswers_of_endAlike
    {left right : Int}
    (alike : EndAlike left right)
    {leftOp rightOp : Operands}
    (leftTaken : ofDecimal (.ofInt left) = .ok leftOp)
    (rightTaken : ofDecimal (.ofInt right) = .ok rightOp) :
    leftOp.SameAnswers rightOp := by
  obtain ⟨leftLarge, rightLarge, sign, lastDigits⟩ := alike
  obtain ⟨leftValue, leftWhole, leftPlaces, leftFraction⟩ := parts_of_ofInt leftTaken
  obtain ⟨rightValue, rightWhole, rightPlaces, rightFraction⟩ := parts_of_ofInt rightTaken
  obtain ⟨leftNotZero, leftNotOne⟩ :=
    magnitude_of_large leftLarge (parts_of_ofDecimal leftTaken).1
  obtain ⟨rightNotZero, rightNotOne⟩ :=
    magnitude_of_large rightLarge (parts_of_ofDecimal rightTaken).1
  constructor
  case isNat =>
    intro n small
    rw [leftValue, rightValue, Bool.eq_iff_iff, Decimal.isNat_iff, Decimal.isNat_iff,
      Decimal.toRat_ofInt, Decimal.toRat_ofInt]
    norm_cast
    omega
  case isBelow =>
    intro n lowest highest
    rw [leftValue, rightValue, Bool.eq_iff_iff, Decimal.isBelow_iff, Decimal.isBelow_iff,
      Decimal.toRat_ofInt, Decimal.toRat_ofInt, Int.cast_lt, Int.cast_lt]
    omega
  case isAbove =>
    intro n lowest highest
    rw [leftValue, rightValue, Bool.eq_iff_iff, Decimal.isAbove_iff, Decimal.isAbove_iff,
      Decimal.toRat_ofInt, Decimal.toRat_ofInt, Int.cast_lt, Int.cast_lt]
    omega
  case isZero => rw [leftNotZero, rightNotZero]
  case isOne => rw [leftNotOne, rightNotOne]
  case whole =>
    intro n small
    omega
  case lastDigits => rw [leftWhole, rightWhole, lastDigits]
  case places => rw [leftPlaces, rightPlaces]
  case fraction => rw [leftFraction, rightFraction]

end Operands

variable {rule : Option PluralRule}

/-- An integer that is no larger than one that can be written can be written too. -/
theorem isWritable_of_natAbs_le
    {small large : Int}
    (below : small.natAbs ≤ large.natAbs)
    (writable : isWritable large = true) :
    isWritable small = true := by
  rw [isWritable, decide_eq_true_eq] at writable ⊢
  exact Nat.lt_of_le_of_lt below writable

/-- Numbers beyond ten that end alike belong to the same category. -/
theorem pluralCategory_of_endAlike
    {left right : Int}
    (alike : EndAlike left right)
    (leftWritable : isWritable left = true)
    (rightWritable : isWritable right = true) :
    pluralCategory rule (.integer left) = pluralCategory rule (.integer right) := by
  obtain ⟨leftOp, leftTaken, leftFound⟩ :=
    (Value.operands_of_standsFor? (rfl : (Value.integer left).standsFor? = some (.ofInt left))).1
      ((Value.showsAtMost_ofInt_iff left).mpr leftWritable)
  obtain ⟨rightOp, rightTaken, rightFound⟩ :=
    (Value.operands_of_standsFor? (rfl : (Value.integer right).standsFor? = some (.ofInt right))).1
      ((Value.showsAtMost_ofInt_iff right).mpr rightWritable)
  have same := Operands.sameAnswers_of_endAlike alike leftTaken rightTaken
  cases rule with
  | none =>
      rw [pluralCategory, pluralCategory, leftFound, rightFound]
      rfl
  | some rule =>
      rw [pluralCategory_of_operands leftFound, pluralCategory_of_operands rightFound,
        same.category rule]

/-- The smaller of two numbers that end alike settles the category of the other, if it has one. -/
theorem pluralCategory_settled
    {small large : Int}
    (alike : EndAlike small large)
    (below : small.natAbs ≤ large.natAbs) :
    pluralCategory rule (.integer large) =
      if isWritable large then pluralCategory rule (.integer small) else .error .unwritable := by
  split
  case isTrue writable =>
    exact (pluralCategory_of_endAlike alike (isWritable_of_natAbs_le below writable) writable).symm
  case isFalse unwritable =>
    exact pluralCategory_of_unwritable_integer (Bool.eq_false_iff.mpr unwritable)

/-- The number up to one hundred and ten that ends like a number and has its sign. -/
def settling (k : Int) : Int :=
  if k.natAbs ≤ 110 then k
  else if 0 < k then 11 + (k - 11) % 100
  else -(11 + (-k - 11) % 100)

/-- The representative lies within 110 of zero. -/
theorem natAbs_settling_le (k : Int) : (settling k).natAbs ≤ 110 := by
  unfold settling
  split
  · assumption
  · split <;> omega

theorem settling_pos_iff (k : Int) : 0 < settling k ↔ 0 < k := by
  unfold settling
  split
  · rfl
  · split <;> omega

theorem natAbs_settling_mod (k : Int) : (settling k).natAbs % 100 = k.natAbs % 100 := by
  unfold settling
  split
  · rfl
  · split <;> omega

/-- A large number and its representative end alike. -/
theorem endAlike_settling
    {k : Int}
    (large : 110 < k.natAbs) :
    EndAlike (settling k) k where
  leftLarge := by
    rw [settling, if_neg (Nat.not_le.mpr large)]
    split <;> omega
  rightLarge := by omega
  sign := settling_pos_iff k
  lastDigits := natAbs_settling_mod k

theorem pluralCategory_of_settling (k : Int) :
    pluralCategory rule (.integer k) =
      if isWritable k then pluralCategory rule (.integer (settling k)) else .error .unwritable := by
  by_cases small : k.natAbs ≤ 110
  · have itself : settling k = k := if_pos small
    have short : isWritable 110 = true := by decide +kernel
    have writable : isWritable k = true := @isWritable_of_natAbs_le k 110 small short
    rw [itself, if_pos writable]
  · have large := Nat.not_le.mp small
    exact pluralCategory_settled (endAlike_settling large)
      ((natAbs_settling_le k).trans large.le)

/--
In every locale a whole number beyond ten belongs to the same category as the
number that lies a hundred further from zero, unless that one has too many
digits to belong to any.  So each number has the category of one with the same
sign and the same last two digits that lies between -110 and 110.
-/
theorem pluralCategory_settled_by_last_digits (locale : Locale) (k : Int) :
    (11 ≤ k -> pluralCategory (PluralRule.ofLocale? locale) (.integer (k + 100)) =
      if isWritable (k + 100) then pluralCategory (PluralRule.ofLocale? locale) (.integer k)
      else .error .unwritable) ∧
    (k ≤ -11 -> pluralCategory (PluralRule.ofLocale? locale) (.integer (k - 100)) =
      if isWritable (k - 100) then pluralCategory (PluralRule.ofLocale? locale) (.integer k)
      else .error .unwritable) ∧
    ∃ small : Int, small.natAbs ≤ 110 ∧ (0 < small ↔ 0 < k) ∧
      small.natAbs % 100 = k.natAbs % 100 ∧
      pluralCategory (PluralRule.ofLocale? locale) (.integer k) =
        if isWritable k then pluralCategory (PluralRule.ofLocale? locale) (.integer small)
        else .error .unwritable := by
  refine ⟨?_, ?_, settling k, natAbs_settling_le k, settling_pos_iff k, natAbs_settling_mod k,
    pluralCategory_of_settling k⟩
  · intro large
    have alike : EndAlike k (k + 100) := by constructor <;> omega
    exact pluralCategory_settled alike (by omega)
  · intro large
    have alike : EndAlike k (k - 100) := by constructor <;> omega
    exact pluralCategory_settled alike (by omega)

/-- Arabic and Polish settle 111 and -112 by 11 and -12. -/
theorem pluralCategory_settled_by_teens :
    pluralCategory (PluralRule.ofLocale? (Locale.ofName "ar")) (.integer (11 + 100)) = .ok .many ∧
      pluralCategory (PluralRule.ofLocale? (Locale.ofName "pl")) (.integer (-12 - 100)) =
        .ok .many := by
  constructor
  · rw [(pluralCategory_settled_by_last_digits (Locale.ofName "ar") 11).1 (by decide)]
    decide +kernel
  · rw [(pluralCategory_settled_by_last_digits (Locale.ofName "pl") (-12)).2.1 (by decide)]
    decide +kernel

end Concord
