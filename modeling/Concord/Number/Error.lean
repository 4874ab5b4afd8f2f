/-!
# Limits of number handling

A number can be too long to be read or written digit by digit, or too large to
be rounded, or so undefined that it must not be compared.  All are reported as
errors of the computation that met them.
-/

namespace Concord

/-- The most digits that are read or written as one whole number, leading zeros counted. -/
def digitLimit : Nat := 4300

/-- The least size that takes more digits than can be written. -/
def firstUnwritable : Nat := Nat.pow 10 digitLimit

/-- Whether a whole number is short enough to be written. -/
def isWritable (n : Int) : Bool :=
  n.natAbs < firstUnwritable

/-- What can go wrong while a number is read, written or compared. -/
inductive NumberError
  | tooManyDigits (count : Nat)
  | unwritable
  | overflow
  | signaling
  deriving DecidableEq

instance decidableEqExcept {ε α : Type} [DecidableEq ε] [DecidableEq α] :
    DecidableEq (Except ε α)
  | .ok left, .ok right => decidable_of_iff (left = right) ⟨congrArg Except.ok, Except.ok.inj⟩
  | .error left, .error right =>
      decidable_of_iff (left = right) ⟨congrArg Except.error, Except.error.inj⟩
  | .ok _, .error _ => isFalse nofun
  | .error _, .ok _ => isFalse nofun

namespace NumberError

/-- The wording of an error. -/
def message : NumberError -> String
  | .tooManyDigits count =>
      "Exceeds the limit (4300 digits) for integer string conversion: value has " ++
        Nat.repr count ++ " digits; use sys.set_int_max_str_digits() to increase the limit"
  | .unwritable =>
      "Exceeds the limit (4300 digits) for integer string conversion; " ++
        "use sys.set_int_max_str_digits() to increase the limit"
  | .overflow => "[<class 'decimal.Overflow'>]"
  | .signaling => "[<class 'decimal.InvalidOperation'>]"

end NumberError

/-- Let a run of digits pass if it is short enough to be read as a whole number. -/
def checkDigitCount (count : Nat) : Except NumberError Unit :=
  if count ≤ digitLimit then .ok () else .error (.tooManyDigits count)

@[simp] theorem checkDigitCount_of_le
    {count : Nat}
    (short : count ≤ digitLimit) :
    checkDigitCount count = .ok () := by
  simp [checkDigitCount, short]

@[simp] theorem checkDigitCount_of_lt
    {count : Nat}
    (long : digitLimit < count) :
    checkDigitCount count = .error (.tooManyDigits count) := by
  simp [checkDigitCount, Nat.not_le.mpr long]

end Concord
