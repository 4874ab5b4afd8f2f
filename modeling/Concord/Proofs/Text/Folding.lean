import Concord.Text.Fold

/-!
# Laws of case folding

A case mapping that moves none of its images changes nothing when it is applied
again.  Folding is such a mapping, so that a text and its folding are the same
up to letter case; and only the empty text folds to the empty one.
-/

namespace Concord
namespace Text

/-! ## Sets of code points -/

/-- A set of code points as the number with these bits. -/
def bits (codes : List Nat) : Nat :=
  codes.foldr (fun code rest => rest ||| 1 <<< code) 0

theorem testBit_bits (codes : List Nat) (code : Nat) :
    (bits codes).testBit code = decide (code ∈ codes) := by
  induction codes with
  | nil => simp [bits]
  | cons first rest inductionHypothesis =>
      rw [bits] at inductionHypothesis ⊢
      rw [List.foldr_cons, Nat.testBit_or, inductionHypothesis, Nat.one_shiftLeft,
        Nat.testBit_two_pow]
      simp [eq_comm, Bool.or_comm]

/-- Sets that have no bit in common have no element in common. -/
theorem not_mem_of_bits
    {left right : List Nat}
    {code : Nat}
    (disjoint : bits left &&& bits right = 0)
    (present : code ∈ left) :
    code ∉ right := by
  have noBit := congrArg (fun number => number.testBit code) disjoint
  rw [Nat.testBit_and, testBit_bits, testBit_bits, Nat.zero_testBit] at noBit
  simpa [present] using noBit

/-! ## Runs -/

namespace CaseRun

variable (run : CaseRun)

/-- How many code points a run holds. -/
def count : Nat :=
  (run.last - run.first) / run.step + 1

/-- The code points that a run moves. -/
def moved : List Nat :=
  (List.range run.count).map fun index => run.first + index * run.step

/-- The code points that a run moves others to. -/
def images : List Nat :=
  (List.range run.count).map fun index => run.image + index * run.step

variable {run}

/-- A run moves a code point by a number of its steps. -/
theorem exists_of_image?
    {code image : Nat}
    (found : run.image? code = some image) :
    ∃ index < run.count,
      code = run.first + index * run.step ∧ image = run.image + index * run.step := by
  unfold image? at found
  split at found
  · rename_i inRun
    obtain ⟨above, below, atStep⟩ := inRun
    have fewer : (code - run.first) / run.step ≤ (run.last - run.first) / run.step :=
      Nat.div_le_div_right (by omega)
    have distance : (code - run.first) / run.step * run.step = code - run.first :=
      Nat.div_mul_cancel (Nat.dvd_of_mod_eq_zero atStep)
    have moved := Option.some.inj found
    refine ⟨(code - run.first) / run.step, Nat.lt_succ_of_le fewer, ?_, ?_⟩
    · omega
    · omega
  · cases found

theorem mem_moved_of_image?
    {code image : Nat}
    (found : run.image? code = some image) :
    code ∈ run.moved := by
  obtain ⟨index, inside, rfl, _⟩ := exists_of_image? found
  exact List.mem_map_of_mem (List.mem_range.mpr inside)

/-- A run moves code points to its images only. -/
theorem mem_images_of_image?
    {code image : Nat}
    (found : run.image? code = some image) :
    image ∈ run.images := by
  obtain ⟨index, inside, _, rfl⟩ := exists_of_image? found
  exact List.mem_map_of_mem (List.mem_range.mpr inside)

end CaseRun

/-! ## Mappings -/

namespace CaseMap

variable (map : CaseMap)

/-- The code points that a mapping moves. -/
def moved : List Nat :=
  map.long.map Prod.fst ++ map.runs.flatMap CaseRun.moved

/-- The code points that a mapping moves others to. -/
def images : List Nat :=
  map.long.flatMap Prod.snd ++ map.runs.flatMap CaseRun.images

/-- A mapping whose images are characters that it does not move. -/
structure IsSettled : Prop where
  /-- Every image is the code point of a character. -/
  valid : ∀ image ∈ map.images, image.isValidChar
  /-- No image is moved itself. -/
  fixed : ∀ image ∈ map.images, image ∉ map.moved

/-- A mapping that sends no code point to nothing. -/
def KeepsAll : Prop :=
  ∀ entry ∈ map.long, entry.2 ≠ []

variable {map}

/-- A code point is sent to images of the mapping, or it is not moved. -/
theorem codes_cases (map : CaseMap) (code : Nat) :
    (∀ image ∈ map.codes code, image ∈ map.images) ∨ map.codes code = [code] := by
  unfold codes images
  split
  · rename_i images found
    obtain ⟨before, after, split, _⟩ := List.lookup_eq_some_iff.mp found
    have entry : (code, images) ∈ map.long := by simp [split]
    left
    intro image present
    exact List.mem_append_left _ (List.mem_flatMap.mpr ⟨(code, images), entry, present⟩)
  · split
    · rename_i image found
      obtain ⟨run, member, moves⟩ := List.exists_of_findSome?_eq_some found
      left
      intro other present
      obtain rfl := List.mem_singleton.mp present
      exact List.mem_append_right _
        (List.mem_flatMap.mpr ⟨run, member, CaseRun.mem_images_of_image? moves⟩)
    · exact .inr rfl

/-- A code point that is not moved is sent to itself. -/
theorem codes_of_not_mem_moved
    {code : Nat}
    (fixed : code ∉ map.moved) :
    map.codes code = [code] := by
  rw [moved, List.mem_append, not_or] at fixed
  have notLong : map.long.lookup code = none := by
    rw [List.lookup_eq_none_iff]
    intro entry member
    have otherKey : entry.1 ≠ code := fun same =>
      fixed.1 (List.mem_map.mpr ⟨entry, member, same⟩)
    simpa using Ne.symm otherKey
  have inNoRun : map.runs.findSome? (fun run => run.image? code) = none := by
    rw [List.findSome?_eq_none_iff]
    intro run member
    cases moves : run.image? code with
    | none => rfl
    | some image =>
        exact absurd (List.mem_flatMap.mpr ⟨run, member, CaseRun.mem_moved_of_image? moves⟩) fixed.2
  rw [codes, notLong, inNoRun]

theorem apply_of_codes
    {c : Char}
    (fixed : map.codes c.toNat = [c.toNat]) :
    map.apply c = [c] := by
  rw [apply, fixed, List.map_singleton, Char.ofNat_toNat]

/-- A settled mapping leaves its images as they are. -/
theorem IsSettled.apply_of_mem
    (settled : map.IsSettled)
    {c d : Char}
    (present : d ∈ map.apply c) :
    map.apply d = [d] := by
  obtain ⟨image, inCodes, rfl⟩ := List.mem_map.mp present
  rcases codes_cases map c.toNat with inImages | unmoved
  · have isImage := inImages image inCodes
    have code : (Char.ofNat image).toNat = image := by
      rw [Char.ofNat, dif_pos (settled.valid image isImage)]
      rfl
    apply apply_of_codes
    rw [code]
    exact codes_of_not_mem_moved (settled.fixed image isImage)
  · rw [unmoved, List.mem_singleton] at inCodes
    rw [inCodes, Char.ofNat_toNat]
    exact apply_of_codes unmoved

/-- A text whose characters are not changed is not changed. -/
theorem applyAll_of_fixed
    {cs : List Char}
    (fixed : ∀ c ∈ cs, map.apply c = [c]) :
    map.applyAll cs = cs := by
  induction cs with
  | nil => rfl
  | cons c rest inductionHypothesis =>
      rw [applyAll_cons, fixed c List.mem_cons_self, inductionHypothesis, List.singleton_append]
      intro other present
      exact fixed other (List.mem_cons_of_mem c present)

/-- A settled mapping changes nothing when it is applied again. -/
theorem IsSettled.applyAll_applyAll (settled : map.IsSettled) (cs : List Char) :
    map.applyAll (map.applyAll cs) = map.applyAll cs := by
  apply applyAll_of_fixed
  intro d present
  obtain ⟨c, _, inImage⟩ := List.mem_flatMap.mp present
  exact settled.apply_of_mem inImage

theorem KeepsAll.apply_ne_nil (keeps : map.KeepsAll) (c : Char) : map.apply c ≠ [] := by
  unfold apply codes
  split
  · rename_i images found
    obtain ⟨before, after, split, _⟩ := List.lookup_eq_some_iff.mp found
    have entry : (c.toNat, images) ∈ map.long := by simp [split]
    simpa using keeps _ entry
  · split <;> simp

/-- Where no code point is sent to nothing, only the empty text is. -/
theorem KeepsAll.applyAll_eq_nil_iff (keeps : map.KeepsAll) (cs : List Char) :
    map.applyAll cs = [] ↔ cs = [] := by
  cases cs with
  | nil => simp
  | cons c rest => simp [keeps.apply_ne_nil c]

end CaseMap

/-! ## Folding -/

/-- Letters are folded to letters that are not folded again. -/
theorem foldMap_isSettled : foldMap.IsSettled where
  valid := by decide +kernel
  -- There are too many images to search for each of them among all that is moved.
  fixed _ := not_mem_of_bits (by decide +kernel)

theorem foldMap_keepsAll : foldMap.KeepsAll := by
  unfold CaseMap.KeepsAll
  decide

@[simp] theorem caseFolded_caseFolded (text : String) :
    caseFolded (caseFolded text) = caseFolded text := by
  rw [caseFolded, toList_caseFolded, foldMap_isSettled.applyAll_applyAll, caseFolded]

@[simp] theorem caseFolded_eq_empty_iff (text : String) : caseFolded text = "" ↔ text = "" := by
  rw [← String.toList_inj, toList_caseFolded, String.toList_empty,
    foldMap_keepsAll.applyAll_eq_nil_iff, String.toList_eq_nil_iff]

end Text
end Concord
