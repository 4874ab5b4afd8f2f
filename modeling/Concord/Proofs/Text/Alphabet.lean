import Concord.Proofs.Text.Trimming
import Concord.Text.Lower
import Concord.Text.Upper

/-!
# Letters of the alphabet

The case mappings send the letters of the Latin alphabet to one another, one to
one; none of them is blank.
-/

namespace Concord
namespace Text

/-- The codes of all letters lie within one range. -/
theorem code_of_isAlpha
    {c : Char}
    (letter : c.isAlpha = true) :
    0x40 < c.toNat ∧ c.toNat < 0x7B := by
  delta Char.isAlpha Char.isUpper Char.isLower at letter
  simp only [Bool.or_eq_true, Bool.and_eq_true, decide_eq_true_eq, ge_iff_le,
    UInt32.le_iff_toNat_le] at letter
  have bounds : (0x41 ≤ c.toNat ∧ c.toNat ≤ 0x5A) ∨ (0x61 ≤ c.toNat ∧ c.toNat ≤ 0x7A) := letter
  omega

/-- What holds of each letter among the first code points holds of every letter. -/
theorem of_isAlpha
    (holds : Char -> Prop)
    (all : ∀ code < 0x7B, (Char.ofNat code).isAlpha = true -> holds (Char.ofNat code))
    {c : Char}
    (letter : c.isAlpha = true) :
    holds c := by
  have known := all c.toNat (code_of_isAlpha letter).2
  rw [Char.ofNat_toNat] at known
  exact known letter

theorem not_isBlank_of_isAlpha
    {c : Char}
    (letter : c.isAlpha = true) :
    ¬ isBlank c = true := by
  have code := code_of_isAlpha letter
  exact not_isBlank_of_visible (by omega)

theorem isAlpha_toLower
    {c : Char}
    (letter : c.isAlpha = true) :
    c.toLower.isAlpha = true :=
  of_isAlpha (fun c => c.toLower.isAlpha = true) (by decide +kernel) letter

theorem isAlpha_toUpper
    {c : Char}
    (letter : c.isAlpha = true) :
    c.toUpper.isAlpha = true :=
  of_isAlpha (fun c => c.toUpper.isAlpha = true) (by decide +kernel) letter

/-- The mapping to lowercase sends a letter of the alphabet to its small letter. -/
theorem lowerMap_apply_of_isAlpha
    {c : Char}
    (letter : c.isAlpha = true) :
    lowerMap.apply c = [c.toLower] :=
  of_isAlpha (fun c => lowerMap.apply c = [c.toLower]) (by decide +kernel) letter

theorem upperMap_apply_of_isAlpha
    {c : Char}
    (letter : c.isAlpha = true) :
    upperMap.apply c = [c.toUpper] :=
  of_isAlpha (fun c => upperMap.apply c = [c.toUpper]) (by decide +kernel) letter

/-- The lowercase of letters of the alphabet does not depend on what stands in front of them. -/
theorem lowerFrom_of_isAlpha
    {cs : List Char}
    (letters : ∀ c ∈ cs, c.isAlpha = true)
    (before : List Char) :
    lowerFrom before cs = cs.map Char.toLower := by
  induction cs generalizing before with
  | nil => rfl
  | cons c rest inductionHypothesis =>
      have letter := letters c List.mem_cons_self
      have notSigma : c ≠ '\u03A3' := by
        rintro rfl
        cases letter
      rw [lowerFrom, if_neg notSigma, lowerMap_apply_of_isAlpha letter,
        inductionHypothesis (fun other present => letters other (List.mem_cons_of_mem c present)),
        List.map_cons, List.singleton_append]

/-- A word of letters is put in uppercase letter by letter. -/
theorem upperMap_applyAll_of_isAlpha
    {cs : List Char}
    (letters : ∀ c ∈ cs, c.isAlpha = true) :
    upperMap.applyAll cs = cs.map Char.toUpper := by
  induction cs with
  | nil => rfl
  | cons c rest inductionHypothesis =>
      rw [CaseMap.applyAll_cons, upperMap_apply_of_isAlpha (letters c List.mem_cons_self),
        inductionHypothesis (fun other present => letters other (List.mem_cons_of_mem c present)),
        List.map_cons, List.singleton_append]

end Text
end Concord
