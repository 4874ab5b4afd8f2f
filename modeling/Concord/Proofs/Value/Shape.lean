import Concord.Value.Key

/-!
# Shapes of collections

Items can be given as a list, as a tuple, or as a mapping that holds each of
them under its position: under the number, or under the digits of the number.
Every shape holds the same at every position.  The shapes differ only where a
mapping has nothing under a number and is asked for its digits, which a number
can have too many of.
-/

namespace Concord

/-! ## Whole numbers as keys -/

namespace Decimal

theorem scaled_ofInt (n : Int) : (ofInt n).scaled 0 = n := by
  have size : n.natAbs * Nat.pow 10 ((0 : Int) - 0).toNat = n.natAbs := Nat.mul_one n.natAbs
  rw [scaled, ofInt, size]
  by_cases negative : n < 0
  · rw [if_pos (decide_eq_true negative)]
    omega
  · rw [if_neg (mt of_decide_eq_true negative)]
    omega

theorem sign_ofInt (n : Int) : (ofInt n).sign = n.sign := by
  rcases Int.lt_trichotomy n 0 with negative | zero | positive
  · simp [sign, ofInt, negative, Int.ne_of_lt negative, Int.sign_eq_neg_one_of_neg negative]
  · simp [sign, ofInt, zero]
  · simp [sign, ofInt, Int.not_lt.mpr (Int.le_of_lt positive), Int.ne_of_gt positive,
      Int.sign_eq_one_of_pos positive]

/-- Whole numbers of the same size are the same. -/
theorem compare_ofInt_eq_iff (left right : Int) :
    (ofInt left).compare (ofInt right) = .eq ↔ left = right := by
  constructor
  · intro sameSize
    rw [compare, sign_ofInt, sign_ofInt] at sameSize
    split at sameSize
    · rename_i signsTell
      have sameSign := Int.compare_eq_eq.mp sameSize
      have zero : left.sign = 0 := signsTell.resolve_left fun different => different sameSign
      have otherZero : right.sign = 0 := sameSign ▸ zero
      rw [Int.sign_eq_zero_iff_zero.mp zero, Int.sign_eq_zero_iff_zero.mp otherZero]
    · rename_i signsAgree
      obtain ⟨sameSign, nonzero⟩ := not_or.mp signsAgree
      rw [Decidable.not_not] at sameSign
      split at sameSize
      · rename_i differentOrder
        have sameProduct := Int.compare_eq_eq.mp sameSize
        rw [← sameSign] at sameProduct
        exact absurd (Int.eq_of_mul_eq_mul_left nonzero sameProduct) differentOrder
      · have sameScaled : (ofInt left).scaled 0 = (ofInt right).scaled 0 :=
          Int.compare_eq_eq.mp sameSize
        rwa [scaled_ofInt, scaled_ofInt] at sameScaled
  · rintro rfl
    simp [compare]

end Decimal

/-- The digits of a position are those of a natural number only if it is that number. -/
theorem repr_eq_repr_nat_iff (position : Int) (index : Nat) :
    Int.repr position = Nat.repr index ↔ position = index := by
  constructor
  · intro sameText
    have sameDigits := congrArg String.toList sameText
    rw [Nat.repr_eq_ofList_toDigits, String.toList_ofList] at sameDigits
    cases position with
    | ofNat number =>
        have ownDigits : (Int.repr number).toList = Nat.toDigits 10 number :=
          String.toList_ofList
        have sameNumber := congrArg (fun digits => Nat.ofDigitChars 10 digits 0)
          (ownDigits.symm.trans sameDigits)
        simp only [Nat.ofDigitChars_ten_toDigits] at sameNumber
        rw [sameNumber]
        rfl
    | negSucc number =>
        have minus : '-' ∈ (Int.repr (Int.negSucc number)).toList := by
          simp [Int.repr]
        rw [sameDigits] at minus
        have isDigit := Nat.isDigit_of_mem_toDigits (by decide) (by decide) minus
        cases isDigit
  · rintro rfl
    rfl

namespace Value

theorem sameKey_integer (position : Int) (index : Nat) :
    sameKey (.integer position) (.integer index) = decide (position = index) := by
  rw [Bool.eq_iff_iff, decide_eq_true_eq, ← Decimal.compare_ofInt_eq_iff]
  exact beq_iff_eq

theorem sameKey_digits (position : Int) (index : Nat) :
    sameKey (.text (Int.repr position)) (.text (Nat.repr index)) = decide (position = index) := by
  rw [Bool.eq_iff_iff, decide_eq_true_eq, ← repr_eq_repr_nat_iff]
  exact beq_iff_eq

/-- Items filed under keys that a wanted key differs from are not found. -/
theorem find?_mapIdx_of_other
    {key : Nat -> Value}
    {wanted : Value}
    (other : ∀ index, sameKey wanted (key index) = false)
    (items : List Value) :
    find? (items.mapIdx fun index item => (key index, item)) wanted = none := by
  rw [find?, Option.map_eq_none_iff, List.find?_eq_none]
  intro entry present
  obtain ⟨index, inside, rfl⟩ := List.mem_mapIdx.mp present
  simp [other]

/-- Of items filed under keys of their own, the key of a position finds the item there. -/
theorem find?_mapIdx
    {key : Nat -> Value}
    {wanted : Value}
    {position : Nat}
    (own : ∀ index, sameKey wanted (key index) = decide (position = index))
    (items : List Value) :
    find? (items.mapIdx fun index item => (key index, item)) wanted = items[position]? := by
  induction items generalizing key position with
  | nil => rfl
  | cons item rest inductionHypothesis =>
      rw [List.mapIdx_cons, find?, List.find?_cons, own 0]
      cases position with
      | zero => rfl
      | succ before =>
          have ownLater (index : Nat) :
              sameKey wanted (key (index + 1)) = decide (before = index) := by
            rw [own]
            simp
          exact inductionHypothesis ownLater

/-- The item at a position, found under its key; nothing stands at a negative position. -/
theorem find?_mapIdx_position
    {key : Nat -> Value}
    {wanted : Value}
    {position : Int}
    (own : ∀ index : Nat, sameKey wanted (key index) = decide (position = index))
    (items : List Value) :
    find? (items.mapIdx fun index item => (key index, item)) wanted =
      (Value.list items).entryAt? position := by
  rw [entryAt?]
  split
  · rename_i negative
    apply find?_mapIdx_of_other
    intro index
    rw [own, decide_eq_false_iff_not]
    omega
  · rename_i nonnegative
    apply find?_mapIdx
    intro index
    rw [own, decide_eq_decide]
    omega

/-- The ways in which items are given to a label. -/
inductive Shape
  | list
  | tuple
  | numbered
  | digits
  deriving DecidableEq

/-- Items in a shape. -/
def Shape.collect (items : List Value) : Shape -> Value
  | .list => .list items
  | .tuple => .tuple items
  | .numbered => .map (items.mapIdx fun index item => (.integer index, item))
  | .digits => .map (items.mapIdx fun index item => (.text (Nat.repr index), item))

namespace Shape

variable (shape : Shape) (items : List Value) (position : Int)

theorem collect_ne_null : shape.collect items ≠ .null := by
  intro same
  cases shape <;> cases same

/-- Every shape holds the same at every position. -/
theorem entryAt?_collect :
    (shape.collect items).entryAt? position = (Value.list items).entryAt? position := by
  cases shape with
  | list | tuple => rfl
  | numbered =>
      have byNumber := find?_mapIdx_position (sameKey_integer position) items
      have byDigits : find? (items.mapIdx fun index item => (.integer index, item))
          (.text (Int.repr position)) = none :=
        find?_mapIdx_of_other (fun _ => rfl) items
      rw [collect, entryAt?, numbered?, byNumber, byDigits, Option.or_none]
  | digits =>
      have byNumber : find? (items.mapIdx fun index item => (.text (Nat.repr index), item))
          (.integer position) = none :=
        find?_mapIdx_of_other (fun _ => rfl) items
      have byDigits := find?_mapIdx_position (sameKey_digits position) items
      rw [collect, entryAt?, numbered?, byNumber, byDigits, Option.none_or]

/-- Where its digits can be written if they must, a position reads the same in every shape. -/
theorem entryAt_collect
    {shape : Shape}
    {items : List Value}
    {position : Int}
    (readable : (shape.collect items).needsLongDigits position = false) :
    (shape.collect items).entryAt (some position) = (Value.list items).entryAt (some position) := by
  rw [entryAt, entryAt, readable, entryAt?_collect]
  rfl

/-- Whether a shape is a mapping. -/
def isMapping : Shape -> Bool
  | .list | .tuple => false
  | .numbered | .digits => true

/-- Only a mapping is asked for the digits of a position. -/
theorem needsLongDigits_collect_of_not_mapping
    (noMapping : shape.isMapping = false) :
    (shape.collect items).needsLongDigits position = false := by
  cases shape with
  | list | tuple => rfl
  | numbered | digits => cases noMapping

/-- Only a position that cannot be written has too many digits to be looked up. -/
theorem needsLongDigits_collect_of_writable
    (writable : isWritable position = true) :
    (shape.collect items).needsLongDigits position = false := by
  cases shape with
  | list | tuple => rfl
  | numbered | digits => simp [collect, needsLongDigits, writable]

end Shape
end Value
end Concord
