/-!
# Case mappings

A case mapping sends most characters to themselves, some to one other
character and a few to several.  The one-to-one part is given by runs: code
points at equal steps that are all moved by the same distance.
-/

namespace Concord
namespace Text

/-- The code points `first`, `first + step`, … up to `last`; `first` is moved to `image`. -/
structure CaseRun where
  /-- The first code point of the run. -/
  first : Nat
  /-- The bound that the run does not pass. -/
  last : Nat
  /-- The distance from one code point of the run to the next. -/
  step : Nat
  /-- The image of the first code point. -/
  image : Nat
  deriving DecidableEq

/-- The image of a code point, if the run holds it. -/
def CaseRun.image? (run : CaseRun) (code : Nat) : Option Nat :=
  if run.first ≤ code ∧ code ≤ run.last ∧ (code - run.first) % run.step = 0 then
    some (run.image + (code - run.first))
  else
    none

/-- A case mapping: code points with several images, then runs of those with one. -/
structure CaseMap where
  /-- The code points that have several images, with these. -/
  long : List (Nat × List Nat)
  /-- The runs of code points that have one image each. -/
  runs : List CaseRun

namespace CaseMap

/-- The image of one code point; one that the mapping does not name stays. -/
def codes (map : CaseMap) (code : Nat) : List Nat :=
  match map.long.lookup code with
  | some images => images
  | none =>
      match map.runs.findSome? (fun run => run.image? code) with
      | some image => [image]
      | none => [code]

/-- The image of one character. -/
def apply (map : CaseMap) (c : Char) : List Char :=
  (map.codes c.toNat).map Char.ofNat

/-- The image of a text, character by character. -/
def applyAll (map : CaseMap) (cs : List Char) : List Char :=
  cs.flatMap map.apply

@[simp] theorem applyAll_nil (map : CaseMap) : map.applyAll [] = [] := rfl

@[simp] theorem applyAll_cons (map : CaseMap) (c : Char) (cs : List Char) :
    map.applyAll (c :: cs) = map.apply c ++ map.applyAll cs := rfl

end CaseMap

end Text
end Concord
