import Concord.Proofs.Number.Nearest
import Concord.Proofs.Plural.Exactness

/-!
# One, and what is rounded to it

Many languages call one whatever has the size one.  The size that their rule
compares has been rounded to the working precision, so numbers with more
fraction digits than that belong to one when they are close enough to it.  Up
to twenty-seven fraction digits no other number is so close.
-/

namespace Concord

/-- A number whose size is rounded to one. -/
def IsNearOne (number : ℚ) : Prop :=
  1 - 5 / 10 ^ 29 ≤ |number| ∧ |number| ≤ 1 + 5 / 10 ^ 28

/-- With few places only the size one itself is rounded to one. -/
theorem isNearOne_iff_of_places
    {d : Decimal}
    (few : Operands.visiblePlaces d ≤ 27) :
    IsNearOne d.toRat ↔ |d.toRat| = 1 := by
  constructor
  · -- Measured in units of the last place, the distance to one is less than a unit.
    rintro ⟨atLeast, atMost⟩
    rw [Decimal.abs_toRat] at atLeast atMost ⊢
    have power : (0 : ℚ) < 10 ^ Operands.visiblePlaces d := by positivity
    have bounded : (10 : ℚ) ^ Operands.visiblePlaces d ≤ 10 ^ 27 :=
      pow_le_pow_right₀ (by norm_num) few
    have exact := Operands.units_eq_size_mul d
    have below : Operands.units d < 10 ^ Operands.visiblePlaces d + 1 := by
      have : (Operands.units d : ℚ) < 10 ^ Operands.visiblePlaces d + 1 := by
        rw [exact]
        nlinarith
      exact_mod_cast this
    have above : 10 ^ Operands.visiblePlaces d < Operands.units d + 1 := by
      have : (10 : ℚ) ^ Operands.visiblePlaces d < Operands.units d + 1 := by
        rw [exact]
        nlinarith
      exact_mod_cast this
    have same : Operands.units d = 10 ^ Operands.visiblePlaces d := by omega
    rw [same, eq_comm, Nat.cast_pow, Nat.cast_ofNat] at exact
    exact (mul_eq_right₀ power.ne').mp exact
  · intro one
    rw [IsNearOne, one]
    norm_num

/--
In a language that calls one whatever has the size one, a number that is not
too long belongs to one exactly if it is near to one, and to other otherwise.
Up to twenty-seven fraction digits near to one means one.
-/
theorem pluralCategory_unit
    {locale : Locale}
    {value : Value}
    {d : Decimal}
    (unit : PluralRule.ofLocale? locale = some .unit)
    (stands : value.standsFor? = some d)
    (short : d.ShowsAtMost digitLimit) :
    ∃ category,
      pluralCategory (PluralRule.ofLocale? locale) value = .ok category ∧
      (category = .one ∨ category = .other) ∧
      (category = .one ↔ IsNearOne d.toRat) ∧
      (Operands.visiblePlaces d ≤ 27 -> (category = .one ↔ |d.toRat| = 1)) := by
  obtain ⟨op, taken, found⟩ := (Value.operands_of_standsFor? stands).1 short
  obtain ⟨sized, -⟩ := Operands.parts_of_ofDecimal taken
  have near : PluralRule.unit.category op = .one ↔ IsNearOne d.toRat := by
    rw [IsNearOne, Decimal.abs_toRat, ← Decimal.isNat_one_of_magnitude sized]
    cases one : op.magnitude.isNat 1 <;> simp [PluralRule.category, PluralRule.oneWhen, one]
  refine ⟨PluralRule.unit.category op, ?_, ?_, near, ?_⟩
  · rw [pluralCategory, found, unit]
    rfl
  · cases one : op.magnitude.isNat 1 <;> simp [PluralRule.category, PluralRule.oneWhen, one]
  · intro few
    rw [near, isNearOne_iff_of_places few]

theorem pluralCategory_unit_spanish :
    pluralCategory (PluralRule.ofLocale? (Locale.ofName "es")) (.text "-1.00") = .ok .one := by
  have unit : PluralRule.ofLocale? (Locale.ofName "es") = some .unit := by rfl
  have stands : (Value.text "-1.00").standsFor? = some ⟨true, 100, -2⟩ := by rfl
  obtain ⟨category, found, -, -, exact⟩ := pluralCategory_unit unit stands (by decide +kernel)
  rw [found, (exact (by decide)).mpr]
  rw [Decimal.abs_toRat]
  norm_num [Decimal.size]

/-- A number a little above one is called one in Spanish, although its size is not one. -/
theorem pluralCategory_unit_of_rounded :
    pluralCategory (PluralRule.ofLocale? (Locale.ofName "es"))
        (.text "1.0000000000000000000000000001") = .ok .one ∧
      (Value.text "1.0000000000000000000000000001").standsFor? =
        some ⟨false, 10000000000000000000000000001, -28⟩ ∧
      |(⟨false, 10000000000000000000000000001, -28⟩ : Decimal).toRat| ≠ 1 := by
  refine ⟨by rfl, by rfl, ?_⟩
  rw [Decimal.abs_toRat]
  norm_num [Decimal.size]

end Concord
