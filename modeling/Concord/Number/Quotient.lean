/-!
# Rounded quotients

A quotient that is not whole is rounded to the nearest whole number, and one
that lies in the middle of two to the even one.
-/

namespace Concord

/-- The whole number nearest to `numerator / unit`, a half going to the even neighbour. -/
def roundedQuotient (numerator unit : Nat) : Nat :=
  let quotient := numerator / unit
  let twice := 2 * (numerator % unit)
  if unit < twice ∨ (twice = unit ∧ quotient % 2 = 1) then quotient + 1 else quotient

@[simp] theorem roundedQuotient_one (numerator : Nat) :
    roundedQuotient numerator 1 = numerator := by
  simp [roundedQuotient, Nat.mod_one]

theorem roundedQuotient_mul (quotient unit : Nat) (positive : 0 < unit) :
    roundedQuotient (quotient * unit) unit = quotient := by
  simp [roundedQuotient, Nat.mul_div_cancel _ positive, Nat.ne_of_lt positive]

end Concord
