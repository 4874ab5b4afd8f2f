import Concord.Plural.Language
import Concord.Proofs.Plural.Exactness

/-!
# Fractions in Russian, Ukrainian and Polish

In these languages the last two digits sort a whole number into one, few and
many, and other is left to numbers that show fraction digits.  The endings of
Russian and Ukrainian cover all whole numbers.  Those of Polish leave out the
size one, which stands alone there; but what is looked for is one with its
sign, so minus one falls through to other.
-/

namespace Concord

namespace PluralRule

/-! ## Three tests in a row -/

section

variable (one few many : Bool)

/-- What passes none of three tests is left to other, and nothing else is. -/
theorem three_tests_eq_other_iff :
    (if one then PluralCategory.one else if few then .few else if many then .many else .other) =
      .other ↔ (one || few || many) = false := by
  cases one <;> cases few <;> cases many <;> simp

theorem three_tests_mem :
    (if one then PluralCategory.one else if few then .few else if many then .many else .other) ∈
      [PluralCategory.one, .few, .many, .other] := by
  cases one <;> cases few <;> cases many <;> simp

end

/-! ## Which endings are covered -/

/-- Every number ends in one of the ways that Russian and Ukrainian tell apart. -/
theorem eastSlavic_endings_cover (n : Nat) :
    (endsInOne n || endsInFew n ||
      (n % 10 = 0 || between 5 9 (n % 10) || between 11 14 (n % 100))) = true := by
  simp only [endsInOne, endsInFew, between, Bool.or_eq_true, Bool.and_eq_true, Bool.not_eq_true',
    Bool.and_eq_false_iff, decide_eq_true_eq, decide_eq_false_iff_not]
  omega

/-- Every number but one ends in one of the ways that Polish tells apart. -/
theorem polish_endings_cover_iff (n : Nat) :
    (endsInFew n || ((n ≠ 1 && between 0 1 (n % 10)) || between 5 9 (n % 10) ||
      between 12 14 (n % 100))) = true ↔ n ≠ 1 := by
  simp only [endsInFew, between, Bool.or_eq_true, Bool.and_eq_true, Bool.not_eq_true',
    Bool.and_eq_false_iff, decide_eq_true_eq, decide_eq_false_iff_not]
  omega

/--
In East Slavic languages the category of everything else is that of numbers with
visible places.
-/
theorem eastSlavicCategory_eq_other_iff (op : Operands) :
    eastSlavicCategory op = .other ↔ op.hasNoPlaces = false := by
  rw [eastSlavicCategory, three_tests_eq_other_iff, ← Bool.and_or_distrib_left,
    ← Bool.and_or_distrib_left, eastSlavic_endings_cover, Bool.and_true]

/-- The first test of Polish looks at the number with its sign, the last one at its size. -/
theorem polishCategory_eq_other_iff (op : Operands) :
    polishCategory op = .other ↔
      op.hasNoPlaces = false ∨ (op.value.isNat 1 = false ∧ op.whole = 1) := by
  rw [polishCategory, three_tests_eq_other_iff, Bool.and_comm _ op.hasNoPlaces,
    ← Bool.and_or_distrib_left, ← Bool.and_or_distrib_left, Bool.or_assoc,
    Bool.and_eq_false_iff, Bool.or_eq_false_iff, ← Bool.not_eq_true (_ || _),
    polish_endings_cover_iff, ne_eq, Decidable.not_not]

/-! ## The rules of the three languages -/

theorem ofLocale?_eq_eastSlavic
    {locale : Locale}
    (language : locale.language = "ru" ∨ locale.language = "uk") :
    ofLocale? locale = some .eastSlavic := by
  rcases language with russian | ukrainian
  · rw [ofLocale?_of_no_countries russian (by decide +kernel)]
    rfl
  · rw [ofLocale?_of_no_countries ukrainian (by decide +kernel)]
    rfl

theorem ofLocale?_eq_polish
    {locale : Locale}
    (polish : locale.language = "pl") :
    ofLocale? locale = some .polish := by
  rw [ofLocale?_of_no_countries polish (by decide +kernel)]
  rfl

end PluralRule

namespace Operands

/-- Without fraction digits the whole part is the size of the number. -/
theorem Describes.abs_eq_whole
    {op : Operands}
    {d : Decimal}
    (describes : op.Describes d)
    (noPlaces : op.places = 0) :
    |d.toRat| = op.whole := by
  have noFraction : op.fraction = 0 := by
    have small := describes.fraction_lt
    rw [noPlaces, Nat.pow_zero] at small
    exact Nat.lt_one_iff.mp small
  rw [describes.size, noFraction, Nat.cast_zero, zero_div, add_zero]

/-- A whole number of the size one that is not one is minus one. -/
theorem Describes.eq_neg_one_iff
    {op : Operands}
    {d : Decimal}
    (describes : op.Describes d)
    (noPlaces : op.places = 0) :
    (op.value.isNat 1 = false ∧ op.whole = 1) ↔ d.toRat = -1 := by
  have size := describes.abs_eq_whole noPlaces
  rw [← Bool.not_eq_true, describes.value, Decimal.isNat_iff, Nat.cast_one]
  constructor
  · rintro ⟨notOne, sizeOne⟩
    rw [sizeOne, Nat.cast_one] at size
    exact ((abs_eq zero_le_one).mp size).resolve_left notOne
  · intro minusOne
    rw [minusOne, abs_neg, abs_one] at size
    exact ⟨by norm_num [minusOne], by exact_mod_cast size.symm⟩

end Operands

variable {locale : Locale} {value : Value} {d : Decimal}

/--
In Russian, Ukrainian and Polish a number that is not too long belongs to one,
few, many or other, and to other exactly if it shows fraction digits; only
minus one belongs to other in Polish however it is written.
-/
theorem pluralCategory_other_iff_fraction
    (slavic : locale.language ∈ ["ru", "uk", "pl"])
    (stands : value.standsFor? = some d)
    (short : d.ShowsAtMost digitLimit) :
    ∃ category,
      pluralCategory (PluralRule.ofLocale? locale) value = .ok category ∧
      category ∈ [PluralCategory.one, .few, .many, .other] ∧
      (category = .other ↔
        0 < Operands.visiblePlaces d ∨ (locale.language = "pl" ∧ d.toRat = -1)) := by
  obtain ⟨op, taken, found⟩ := (Value.operands_of_standsFor? stands).1 short
  have describes := Operands.describes_of_ofDecimal taken
  have places : op.places = Operands.visiblePlaces d := by
    rw [(Operands.parts_of_ofDecimal taken).2]
  have shows : op.hasNoPlaces = false ↔ 0 < Operands.visiblePlaces d := by
    rw [Operands.hasNoPlaces, decide_eq_false_iff_not, places, Nat.pos_iff_ne_zero]
  by_cases polish : locale.language = "pl"
  case pos =>
    refine ⟨PluralRule.polishCategory op, ?_, PluralRule.three_tests_mem _ _ _, ?_⟩
    · rw [PluralRule.ofLocale?_eq_polish polish]
      exact pluralCategory_of_operands found .polish
    · rw [PluralRule.polishCategory_eq_other_iff, shows, and_iff_right polish]
      apply or_congr_right'
      intro none
      exact describes.eq_neg_one_iff (places.trans (Nat.eq_zero_of_not_pos none))
  case neg =>
    have east : locale.language = "ru" ∨ locale.language = "uk" := by
      simpa [polish] using slavic
    refine ⟨PluralRule.eastSlavicCategory op, ?_, PluralRule.three_tests_mem _ _ _, ?_⟩
    · rw [PluralRule.ofLocale?_eq_eastSlavic east]
      exact pluralCategory_of_operands found .eastSlavic
    · rw [PluralRule.eastSlavicCategory_eq_other_iff, shows, or_iff_left (mt And.left polish)]

/-- Minus twenty-one shows no fraction digits, and in Poland it is not called other. -/
theorem pluralCategory_other_iff_fraction_poland :
    pluralCategory (PluralRule.ofLocale? (Locale.ofName "pl-PL")) (.integer (-21)) ≠
      .ok .other := by
  have slavic : (Locale.ofName "pl-PL").language ∈ ["ru", "uk", "pl"] := by decide +kernel
  have stands : (Value.integer (-21)).standsFor? = some (.ofInt (-21)) := by rfl
  obtain ⟨category, found, -, otherIff⟩ :=
    pluralCategory_other_iff_fraction slavic stands (by decide +kernel)
  intro other
  rw [other] at found
  cases found
  rcases otherIff.mp rfl with shows | ⟨-, minusOne⟩
  · exact absurd shows (by decide)
  · rw [Decimal.toRat_ofInt] at minusOne
    norm_num at minusOne

/-- Polish calls minus one other, although it shows no fraction digits. -/
theorem pluralCategory_minus_one_polish :
    pluralCategory (PluralRule.ofLocale? (Locale.ofName "pl")) (.integer (-1)) = .ok .other ∧
      (Value.integer (-1)).standsFor? = some (.ofInt (-1)) ∧
      Operands.visiblePlaces (.ofInt (-1)) = 0 :=
  ⟨by decide +kernel, by rfl, by rfl⟩

end Concord
