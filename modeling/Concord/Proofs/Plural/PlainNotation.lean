import Concord.Plural.Operands
import Concord.Proofs.Number.ReadBack

/-!
# Plain notation

In plain notation a decimal has no exponent mark; zeros are written in its
place.  The parts of a decimal that plural rules look at are the numbers
written before and behind the point of that notation, and their digits are
counted as they stand there.
-/

namespace Concord

/-- A number with `count` digits is below the power of ten with as many zeros. -/
theorem ofDigitChars_lt
    {digits : List Char}
    (isDigit : ∀ c ∈ digits, c.isDigit = true) :
    Nat.ofDigitChars 10 digits 0 < Nat.pow 10 digits.length := by
  induction digits with
  | nil => decide
  | cons first rest inductionHypothesis =>
      have code := ExtendedDecimal.code_of_isDigit (isDigit first List.mem_cons_self)
      have below := inductionHypothesis fun c member => isDigit c (List.mem_cons_of_mem _ member)
      have digit : first.toNat - '0'.toNat ≤ 9 := by
        have zero : '0'.toNat = 0x30 := rfl
        omega
      calc Nat.ofDigitChars 10 (first :: rest) 0
          = 10 ^ rest.length * (first.toNat - '0'.toNat) + Nat.ofDigitChars 10 rest 0 := by
            rw [Nat.ofDigitChars_cons, Nat.ofDigitChars_eq_ofDigitChars_zero, Nat.mul_zero,
              Nat.zero_add]
        _ < 10 ^ rest.length * (first.toNat - '0'.toNat) + 10 ^ rest.length :=
            Nat.add_lt_add_left below _
        _ = 10 ^ rest.length * (first.toNat - '0'.toNat + 1) := (Nat.mul_succ _ _).symm
        _ ≤ 10 ^ rest.length * 10 := Nat.mul_le_mul_left _ (by omega)
        _ = 10 ^ (first :: rest).length := (Nat.pow_succ ..).symm

namespace Decimal

/-- The digits in plain notation; a zero shows no more than one before the point. -/
def plainDigits (d : Decimal) : List Char :=
  d.digits ++ List.replicate (if d.coefficient = 0 then 0 else d.exponent.toNat) '0'

/-- A decimal in plain notation, without its sign. -/
def plainChars (d : Decimal) : List Char :=
  withPoint (-d.exponent).toNat d.plainDigits

/-- The digits before the point. -/
def beforePoint (cs : List Char) : List Char :=
  cs.takeWhile (· ≠ '.')

/-- The digits behind the point; none if there is no point. -/
def behindPoint (cs : List Char) : List Char :=
  (cs.dropWhile (· ≠ '.')).tail

/-- A decimal that shows at most so many digits before the point, and behind it. -/
def ShowsAtMost (limit : Nat) (d : Decimal) : Prop :=
  (beforePoint d.plainChars).length ≤ limit ∧ (behindPoint d.plainChars).length ≤ limit

instance decidableShowsAtMost (limit : Nat) (d : Decimal) : Decidable (ShowsAtMost limit d) :=
  inferInstanceAs (Decidable (_ ∧ _))

theorem isDigit_of_mem_plainDigits (d : Decimal) : ∀ c ∈ d.plainDigits, c.isDigit = true := by
  intro c member
  rcases List.mem_append.mp member with digit | zero
  · exact isDigit_of_mem_toDigits digit
  · rw [List.eq_of_mem_replicate zero]
    rfl

theorem plainDigits_ne_nil (d : Decimal) : d.plainDigits ≠ [] := by
  simp [plainDigits, d.digits_ne_nil]

/-- The digits in plain notation are those of the number in units of its last place. -/
theorem ofDigitChars_plainDigits (d : Decimal) :
    Nat.ofDigitChars 10 d.plainDigits 0 = d.coefficient * Nat.pow 10 d.exponent.toNat := by
  have digits : Nat.ofDigitChars 10 d.digits 0 = d.coefficient := Nat.ofDigitChars_ten_toDigits
  rw [plainDigits, Nat.ofDigitChars_append, digits, Nat.ofDigitChars_replicate_zero, Nat.mul_comm]
  split
  · rename_i zero
    rw [zero, Nat.zero_mul, Nat.zero_mul]
  · rfl

/-- A plain notation is cut at its point. -/
theorem split_at_point
    {whole : List Char}
    (isDigit : ∀ c ∈ whole, c.isDigit = true)
    (fraction : List Char) :
    beforePoint (whole ++ pointed fraction) = whole ∧
      behindPoint (whole ++ pointed fraction) = fraction := by
  have noPoint : ∀ c ∈ whole, decide (c ≠ '.') = true := by
    intro c member
    apply decide_eq_true
    rintro rfl
    cases isDigit _ member
  rw [beforePoint, behindPoint, List.takeWhile_append_of_pos noPoint,
    List.dropWhile_append_of_pos noPoint]
  cases fraction with
  | nil => exact ⟨List.append_nil whole, rfl⟩
  | cons first rest => exact ⟨List.append_nil whole, rfl⟩

/-- The digits on both sides of the point, put together. -/
def paddedDigits (d : Decimal) : List Char :=
  List.replicate ((-d.exponent).toNat + 1 - d.plainDigits.length) '0' ++ d.plainDigits

/--
The digits on both sides of the point are all digits, and those behind it as
many as there are places.
-/
theorem plainChars_parts (d : Decimal) :
    beforePoint d.plainChars ++ behindPoint d.plainChars = d.paddedDigits ∧
      (behindPoint d.plainChars).length = (-d.exponent).toNat := by
  obtain ⟨whole, fraction, written, together, -, places⟩ :=
    withPoint_eq d.plainDigits_ne_nil (-d.exponent).toNat
  have isDigit : ∀ c ∈ whole ++ fraction, c.isDigit = true := by
    rw [together]
    exact isDigit_of_mem_padded d.isDigit_of_mem_plainDigits _
  have wholeDigits : ∀ c ∈ whole, c.isDigit = true :=
    fun c member => isDigit c (List.mem_append_left _ member)
  obtain ⟨before, behind⟩ := split_at_point wholeDigits fraction
  rw [plainChars, written, before, behind]
  exact ⟨together, places⟩

end Decimal

namespace Operands

open Decimal

/-- The number of places is the number of digits behind the point. -/
theorem length_behindPoint (d : Decimal) :
    (behindPoint d.plainChars).length = visiblePlaces d :=
  d.plainChars_parts.2

/-- Before the point stand as many digits as the whole part has. -/
theorem length_beforePoint (d : Decimal) :
    (beforePoint d.plainChars).length = wholeDigits d := by
  obtain ⟨together, places⟩ := d.plainChars_parts
  have total := congrArg List.length together
  have positive := d.digitCount_pos
  rw [paddedDigits, List.length_append, List.length_append, List.length_replicate, plainDigits,
    List.length_append, List.length_replicate, ← digitCount, places] at total
  unfold wholeDigits
  split
  · rename_i zero
    have single : d.digitCount = 1 := by
      rw [digitCount, digits, zero, Nat.toDigits_zero, List.length_singleton]
    rw [if_pos zero] at total
    omega
  · rename_i nonzero
    rw [if_neg nonzero] at total
    rw [adjusted]
    omega

/-- The parts of a decimal are quotient and remainder of the number in units of its last place. -/
theorem ofDigitChars_parts (d : Decimal) :
    Nat.ofDigitChars 10 (beforePoint d.plainChars) 0 =
        d.coefficient * Nat.pow 10 d.exponent.toNat / Nat.pow 10 (visiblePlaces d) ∧
      Nat.ofDigitChars 10 (behindPoint d.plainChars) 0 =
        d.coefficient * Nat.pow 10 d.exponent.toNat % Nat.pow 10 (visiblePlaces d) := by
  obtain ⟨together, places⟩ := d.plainChars_parts
  have isDigit : ∀ c ∈ behindPoint d.plainChars, c.isDigit = true := by
    intro c member
    apply isDigit_of_mem_padded d.isDigit_of_mem_plainDigits _ c
    rw [← paddedDigits, ← together]
    exact List.mem_append_right _ member
  have below := ofDigitChars_lt isDigit
  have value := congrArg (fun digits => Nat.ofDigitChars 10 digits 0) together
  rw [Nat.ofDigitChars_append, Nat.ofDigitChars_eq_ofDigitChars_zero, paddedDigits,
    Nat.ofDigitChars_append, Nat.ofDigitChars_replicate_zero, Nat.mul_zero,
    ofDigitChars_plainDigits] at value
  rw [length_behindPoint] at below value
  simp only [Nat.pow_eq] at below value ⊢
  rw [← value]
  constructor
  · rw [Nat.mul_add_div (Nat.pow_pos (by decide)), Nat.div_eq_of_lt below, Nat.add_zero]
  · rw [Nat.mul_add_mod, Nat.mod_eq_of_lt below]

/-- The whole part is the number before the point. -/
theorem wholePart_eq (d : Decimal) :
    wholePart d = Nat.ofDigitChars 10 (beforePoint d.plainChars) 0 := by
  rw [(ofDigitChars_parts d).1, wholePart]
  split
  · rename_i zero
    rw [zero, Nat.zero_mul, Nat.zero_div]
  · rfl

/-- The fraction is the number behind the point. -/
theorem fractionPart_eq (d : Decimal) :
    fractionPart d = Nat.ofDigitChars 10 (behindPoint d.plainChars) 0 := by
  rw [(ofDigitChars_parts d).2, fractionPart, visiblePlaces]
  by_cases places : 0 ≤ d.exponent
  · have none : (-d.exponent).toNat = 0 := by omega
    rw [none, Nat.pow_eq, Nat.pow_zero, Nat.mod_one, Nat.mod_one]
  · have none : d.exponent.toNat = 0 := by omega
    have single : Nat.pow 10 0 = 1 := rfl
    rw [none, single, Nat.mul_one]

end Operands
end Concord
