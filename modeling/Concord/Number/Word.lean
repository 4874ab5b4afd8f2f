import Concord.Number.Binary64.Basic

/-!
# Machine words

Whole numbers of up to 63 bits and a sign fit a machine word.
-/

namespace Concord

/-- The first number above those of a signed machine word. -/
def wordBound : Int := 0x8000000000000000

/-- Whether a whole number fits a signed machine word. -/
def fitsWord (n : Int) : Bool :=
  -wordBound ≤ n && n < wordBound

/-- The whole number that a binary number stands for, if it lies strictly inside a machine word. -/
def Binary64.word? (value : Binary64) : Option Int :=
  value.whole?.filter fun n => -wordBound < n && n < wordBound

end Concord
