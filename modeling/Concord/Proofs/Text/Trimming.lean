import Concord.Text.Blank
import Mathlib.Data.List.DropRight

/-!
# Laws of trimming

Taking off what stands at both ends of a text changes nothing where nothing of
the kind stands, and nothing when it is done again.
-/

namespace Concord
namespace Text

theorem trimBy_eq_rdropWhile (test : Char -> Bool) (cs : List Char) :
    trimBy test cs = (cs.dropWhile test).rdropWhile test :=
  rfl

theorem trimBy_of_none
    {test : Char -> Bool}
    {cs : List Char}
    (none : ∀ c ∈ cs, ¬ test c = true) :
    trimBy test cs = cs := by
  have front : cs.dropWhile test = cs :=
    List.dropWhile_eq_self_iff.mpr fun nonempty => none _ (List.getElem_mem nonempty)
  rw [trimBy_eq_rdropWhile, front, List.rdropWhile_eq_self_iff]
  intro nonempty
  exact none _ (List.getLast_mem nonempty)

/-- What has been taken off at both ends is not there a second time. -/
theorem trimBy_trimBy (test : Char -> Bool) (cs : List Char) :
    trimBy test (trimBy test cs) = trimBy test cs := by
  have front : (trimBy test cs).dropWhile test = trimBy test cs := by
    rw [List.dropWhile_eq_self_iff]
    intro nonempty
    have front : trimBy test cs <+: cs.dropWhile test := List.rdropWhile_prefix _ _
    rw [front.getElem nonempty]
    exact List.dropWhile_get_zero_not _ cs _
  conv_lhs => rw [trimBy_eq_rdropWhile, front]
  exact List.rdropWhile_idempotent _ _

/-- A beginning without blanks stays when the blanks at both ends are taken off. -/
theorem startsWith_trimBy
    {test : Char -> Bool}
    {front : List Char}
    (nonempty : front ≠ [])
    (none : ∀ c ∈ front, ¬ test c = true)
    (rest : List Char) :
    front <+: trimBy test (front ++ rest) := by
  have started : (front ++ rest).dropWhile test = front ++ rest := by
    obtain ⟨first, others, rfl⟩ := List.exists_cons_of_ne_nil nonempty
    exact List.dropWhile_cons_of_neg (none first List.mem_cons_self)
  have ended : front.reverse.dropWhile test = front.reverse :=
    List.dropWhile_eq_self_iff.mpr fun inside =>
      none _ (List.mem_reverse.mp (List.getElem_mem inside))
  rw [trimBy, started, List.reverse_append, List.dropWhile_append]
  split
  · exact ⟨[], by rw [ended, List.reverse_reverse, List.append_nil]⟩
  · rw [List.reverse_append, List.reverse_reverse]
    exact List.prefix_append _ _

/-- A printed ASCII character is no blank. -/
theorem not_isBlank_of_visible
    {c : Char}
    (visible : 0x20 < c.toNat ∧ c.toNat < 0x7F) :
    ¬ isBlank c = true := by
  simp [isBlank, isWhitespace, inSpans, whitespaceSpans, unitSeparators, Span.contains_iff]
  omega

end Text
end Concord
