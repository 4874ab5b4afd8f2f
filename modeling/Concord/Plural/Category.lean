/-!
# Plural categories
-/

namespace Concord

/-- The classes into which languages sort numbers. -/
inductive PluralCategory
  | zero
  | one
  | two
  | few
  | many
  | other
  deriving DecidableEq

/-- The name of a category, under which phrase variants are filed. -/
def PluralCategory.name : PluralCategory -> String
  | .zero => "zero"
  | .one => "one"
  | .two => "two"
  | .few => "few"
  | .many => "many"
  | .other => "other"

theorem PluralCategory.name_injective
    {left right : PluralCategory}
    (sameName : left.name = right.name) :
    left = right := by
  cases left <;> cases right <;> simp_all [name]

end Concord
