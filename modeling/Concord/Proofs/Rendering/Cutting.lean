import Concord.Proofs.Number.ReadBack
import Concord.Rendering.Placeholder
import Mathlib.Data.List.Infix

/-!
# Cutting a text at its placeholders

A placeholder is an opening brace, one or more digits and a closing brace,
wherever they stand one after the other.  Every text can be cut at all its
placeholders in exactly one way, and scanning cuts it so.  Two texts are cut
apart when they are put together exactly if the first one leaves no
placeholder open.
-/

namespace Concord
namespace Piece

/-- The digits of a placeholder: one or more, and nothing else. -/
def IsNumeral (digits : List Char) : Prop :=
  digits ≠ [] ∧ ∀ c ∈ digits, c.isDigit = true

/--
The pieces of a text that is cut at all its placeholders: put together again
they are the text, and no placeholder is left among the characters between.
-/
structure IsCut (text : List Char) (pieces : List Piece) : Prop where
  /-- Put together again, the pieces are the text. -/
  whole : pieces.flatMap chars = text
  /-- Every slot holds a numeral. -/
  numerals : ∀ digits, Piece.slot digits ∈ pieces -> IsNumeral digits
  /-- No run of characters between the slots is a placeholder. -/
  complete : ∀ digits, IsNumeral digits -> ¬ (slotChars digits).map Piece.plain <:+: pieces

/-- A text that starts with the characters of a placeholder. -/
def StartsWithSlot (text : List Char) : Prop :=
  ∃ digits, IsNumeral digits ∧ slotChars digits <+: text

/-- A text that ends within a placeholder: with an opening brace and nothing but digits after it. -/
def LeavesOpen (text : List Char) : Prop :=
  ∃ digits, (∀ c ∈ digits, c.isDigit = true) ∧ '\x7b' :: digits <:+ text

/-- Before the digits at the end of an open text stands the opening brace. -/
theorem leavesOpen_iff (text : List Char) :
    LeavesOpen text ↔ (text.reverse.dropWhile Char.isDigit).head? = some '\x7b' := by
  constructor
  · rintro ⟨digits, isDigit, before, rfl⟩
    have fromEnd : (before ++ '\x7b' :: digits).reverse =
        digits.reverse ++ '\x7b' :: before.reverse := by
      simp
    have isDigitFromEnd : ∀ c ∈ digits.reverse, c.isDigit = true :=
      fun c member => isDigit c (List.mem_reverse.mp member)
    rw [fromEnd, List.dropWhile_append_of_pos isDigitFromEnd]
    rfl
  · intro brace
    obtain ⟨before, stops⟩ := List.head?_eq_some_iff.mp brace
    refine ⟨(text.reverse.takeWhile Char.isDigit).reverse, ?_, before.reverse, ?_⟩
    · intro c member
      exact List.mem_takeWhile_imp (List.mem_reverse.mp member)
    · have split := List.takeWhile_append_dropWhile (p := Char.isDigit) (l := text.reverse)
      rw [stops] at split
      have reversed := congrArg List.reverse split
      simpa using reversed

instance decidableLeavesOpen (text : List Char) : Decidable (LeavesOpen text) :=
  decidable_of_iff _ (leavesOpen_iff text).symm

theorem ne_brace_of_isDigit
    {c : Char}
    (digit : c.isDigit = true) :
    c ≠ '\x7b' ∧ c ≠ '\x7d' := by
  have code := ExtendedDecimal.code_of_isDigit digit
  constructor
  · rintro rfl
    cases digit
  · rintro rfl
    cases digit

/-! ## Scanning -/

theorem scan_cons_of_ne
    {c : Char}
    (other : c ≠ '\x7b')
    (rest : List Char) :
    scan (c :: rest) = .plain c :: scan rest := by
  rw [scan, if_neg other]

theorem scan_brace (rest : List Char) : scan ('\x7b' :: rest) = scanSlot [] rest := by
  rw [scan, if_pos rfl]

/-- A closing brace behind digits ends the placeholder. -/
theorem scanSlot_closed
    {before digits : List Char}
    (isDigit : ∀ c ∈ digits, c.isDigit = true)
    (nonempty : before.reverse ++ digits ≠ [])
    (rest : List Char) :
    scanSlot before (digits ++ '\x7d' :: rest) =
      .slot (before.reverse ++ digits) :: scan rest := by
  induction digits generalizing before with
  | nil =>
      have some_digit : before ≠ [] := by simpa using nonempty
      have closes : '\x7d' = '\x7d' ∧ before ≠ [] := ⟨rfl, some_digit⟩
      rw [List.nil_append, scanSlot, if_neg (by decide), if_pos closes, List.append_nil]
  | cons first others inductionHypothesis =>
      have digit : first.isDigit = true := isDigit first List.mem_cons_self
      have moved : (first :: before).reverse ++ others = before.reverse ++ first :: others := by
        rw [List.reverse_cons, List.append_assoc, List.singleton_append]
      rw [List.cons_append, scanSlot, if_pos digit, inductionHypothesis, moved]
      · exact fun c member => isDigit c (List.mem_cons_of_mem _ member)
      · rw [moved]
        exact nonempty

/-- Without a closing brace behind the digits the opening brace is a character of its own. -/
theorem scanSlot_broken
    {before text : List Char}
    (unclosed : ∀ digits rest, (∀ c ∈ digits, c.isDigit = true) ->
      before.reverse ++ digits ≠ [] -> text ≠ digits ++ '\x7d' :: rest) :
    scanSlot before text = brokenSlot before.reverse ++ scan text := by
  induction text generalizing before with
  | nil => rw [scanSlot, scan, List.append_nil]
  | cons c rest inductionHypothesis =>
      rw [scanSlot]
      by_cases digit : c.isDigit = true
      · have stillUnclosed : ∀ digits later, (∀ d ∈ digits, d.isDigit = true) ->
            (c :: before).reverse ++ digits ≠ [] -> rest ≠ digits ++ '\x7d' :: later := by
          rintro digits later isDigit - rfl
          refine unclosed (c :: digits) later ?_ (by simp) rfl
          exact List.forall_mem_cons.mpr ⟨digit, isDigit⟩
        rw [if_pos digit, inductionHypothesis stillUnclosed,
          scan_cons_of_ne (ne_brace_of_isDigit digit).1]
        simp [brokenSlot]
      · rw [if_neg digit, if_neg]
        · by_cases opens : c = '\x7b'
          · rw [if_pos opens, opens, scan_brace]
          · rw [if_neg opens, scan_cons_of_ne opens]
        · rintro ⟨rfl, nonempty⟩
          exact unclosed [] rest (by simp) (by simpa using nonempty) rfl

theorem scan_slotChars_append
    {digits : List Char}
    (numeral : IsNumeral digits)
    (rest : List Char) :
    scan (slotChars digits ++ rest) = .slot digits :: scan rest := by
  rw [slotChars, List.cons_append, List.cons_append, List.append_assoc, scan_brace]
  exact @scanSlot_closed [] digits numeral.2 numeral.1 rest

theorem scan_cons
    {c : Char}
    {rest : List Char}
    (apart : ¬ StartsWithSlot (c :: rest)) :
    scan (c :: rest) = .plain c :: scan rest := by
  by_cases opens : c = '\x7b'
  · subst opens
    rw [scan_brace, scanSlot_broken]
    · rfl
    · rintro digits later isDigit nonempty rfl
      refine apart ⟨digits, ⟨nonempty, isDigit⟩, later, ?_⟩
      simp [slotChars]
  · exact scan_cons_of_ne opens rest

/-- Induction over a text from one placeholder, or character outside of them, to the next. -/
@[elab_as_elim]
theorem cutting
    {motive : List Char -> Prop}
    (nil : motive [])
    (slot : ∀ digits rest, IsNumeral digits -> motive rest -> motive (slotChars digits ++ rest))
    (plain : ∀ c rest, ¬ StartsWithSlot (c :: rest) -> motive rest -> motive (c :: rest))
    (text : List Char) :
    motive text := by
  induction size : text.length using Nat.strong_induction_on generalizing text with
  | _ size shorter =>
      cases text with
      | nil => exact nil
      | cons c rest =>
          by_cases starts : StartsWithSlot (c :: rest)
          · obtain ⟨digits, numeral, later, joined⟩ := starts
            rw [← joined] at size ⊢
            refine slot digits later numeral (shorter later.length ?_ later rfl)
            rw [← size, List.length_append, slotChars, List.length_append, List.length_cons]
            omega
          · refine plain c rest starts (shorter rest.length ?_ rest rfl)
            rw [← size, List.length_cons]
            omega

/-! ## The only cut -/

theorem isCut_scan (text : List Char) : IsCut text (scan text) := by
  refine ⟨(flatMap_chars_scan text).1, ?_, ?_⟩
  · induction text using cutting with
    | nil => simp [scan]
    | slot digits rest numeral inductionHypothesis =>
        intro others member
        rw [scan_slotChars_append numeral] at member
        rcases List.mem_cons.mp member with same | later
        · cases same
          exact numeral
        · exact inductionHypothesis others later
    | plain c rest apart inductionHypothesis =>
        intro others member
        rw [scan_cons apart] at member
        exact inductionHypothesis others (by simpa using member)
  · induction text using cutting with
    | nil => simp [scan, slotChars]
    | slot digits rest numeral inductionHypothesis =>
        intro others otherNumeral inside
        rw [scan_slotChars_append numeral] at inside
        rcases List.infix_cons_iff.mp inside with atFront | later
        · cases (List.cons_prefix_cons.mp atFront).1
        · exact inductionHypothesis others otherNumeral later
    | plain c rest apart inductionHypothesis =>
        intro others otherNumeral inside
        rw [scan_cons apart] at inside
        rcases List.infix_cons_iff.mp inside with atFront | later
        · refine apart ⟨others, otherNumeral, ?_⟩
          have written := atFront.flatMap chars
          rw [List.flatMap_map, List.flatMap_cons, (flatMap_chars_scan rest).1] at written
          simpa [chars] using written
        · exact inductionHypothesis others otherNumeral later

/-- Characters other than opening braces are found as plain pieces. -/
theorem map_plain_startsWith
    {text : List Char}
    (noBrace : '\x7b' ∉ text)
    {pieces : List Piece}
    (starts : text <+: pieces.flatMap chars) :
    text.map Piece.plain <+: pieces := by
  induction text generalizing pieces with
  | nil => exact List.nil_prefix
  | cons c rest inductionHypothesis =>
      rw [List.mem_cons, not_or] at noBrace
      cases pieces with
      | nil => simp at starts
      | cons piece others =>
          cases piece with
          | slot digits =>
              rw [List.flatMap_cons, chars, slotChars, List.cons_append, List.cons_append,
                List.cons_prefix_cons] at starts
              exact absurd starts.1.symm noBrace.1
          | plain d =>
              rw [List.flatMap_cons, chars, List.singleton_append, List.cons_prefix_cons] at starts
              rw [List.map_cons, starts.1, List.cons_prefix_cons]
              exact ⟨rfl, inductionHypothesis noBrace.2 starts.2⟩

theorem brace_not_mem_of_isNumeral
    {digits : List Char}
    (isDigit : ∀ c ∈ digits, c.isDigit = true) :
    '\x7b' ∉ digits ++ ['\x7d'] := by
  intro member
  rcases List.mem_append.mp member with digit | last
  · exact (ne_brace_of_isDigit (isDigit _ digit)).1 rfl
  · cases List.mem_singleton.mp last

/-- The pieces behind the first one are a cut of what they are written with. -/
theorem IsCut.tail
    {text : List Char}
    {piece : Piece}
    {pieces : List Piece}
    (cut : IsCut text (piece :: pieces)) :
    IsCut (pieces.flatMap chars) pieces where
  whole := rfl
  numerals digits member := cut.numerals digits (List.mem_cons_of_mem _ member)
  complete digits numeral inside :=
    cut.complete digits numeral (List.infix_cons_iff.mpr (.inr inside))

theorem IsCut.eq_scan
    {text : List Char}
    {pieces : List Piece}
    (cut : IsCut text pieces) :
    pieces = scan text := by
  induction pieces generalizing text with
  | nil => rw [← cut.whole, List.flatMap_nil, scan]
  | cons piece pieces inductionHypothesis =>
      have others := inductionHypothesis cut.tail
      rw [← cut.whole, List.flatMap_cons]
      cases piece with
      | slot digits =>
          have numeral := cut.numerals digits List.mem_cons_self
          rw [chars, scan_slotChars_append numeral, ← others]
      | plain c =>
          rw [chars, List.singleton_append, scan_cons, ← others]
          rintro ⟨digits, numeral, starts⟩
          -- The placeholder would stand among the plain characters of the cut.
          rw [slotChars, List.cons_append, List.cons_prefix_cons] at starts
          refine cut.complete digits numeral (List.IsPrefix.isInfix ?_)
          rw [slotChars, List.cons_append, List.map_cons, starts.1, List.cons_prefix_cons]
          exact ⟨rfl, map_plain_startsWith (brace_not_mem_of_isNumeral numeral.2) starts.2⟩

/-- A text is cut at all its placeholders in one way only. -/
theorem isCut_iff (text : List Char) (pieces : List Piece) :
    IsCut text pieces ↔ pieces = scan text := by
  constructor
  · exact IsCut.eq_scan
  · rintro rfl
    exact isCut_scan text

/-- The characters of a slot stand in the text. -/
theorem IsCut.slotChars_inside
    {text : List Char}
    {pieces : List Piece}
    (cut : IsCut text pieces)
    {digits : List Char}
    (member : Piece.slot digits ∈ pieces) :
    slotChars digits <:+: text := by
  rw [← cut.whole]
  obtain ⟨before, behind, split⟩ := List.append_of_mem member
  rw [split, List.flatMap_append, List.flatMap_cons]
  exact List.infix_append' _ _ _

/-! ## Texts put together -/

theorem LeavesOpen.append_left
    {text : List Char}
    (opened : LeavesOpen text)
    (before : List Char) :
    LeavesOpen (before ++ text) := by
  obtain ⟨digits, isDigit, ends⟩ := opened
  exact ⟨digits, isDigit, ends.trans (List.suffix_append before text)⟩

/-- What makes a placeholder together with a text behind it leaves it open, or was one before. -/
theorem startsWithSlot_or_leavesOpen
    {c : Char}
    {left right : List Char}
    (starts : StartsWithSlot (c :: (left ++ right))) :
    StartsWithSlot (c :: left) ∨ LeavesOpen (c :: left) := by
  obtain ⟨digits, numeral, inside⟩ := starts
  have front : c :: left <+: c :: (left ++ right) :=
    List.cons_prefix_cons.mpr ⟨rfl, List.prefix_append left right⟩
  rcases List.prefix_or_prefix_of_prefix inside front with within | beyond
  · exact .inl ⟨digits, numeral, within⟩
  · rw [slotChars, List.cons_append, List.cons_prefix_cons, List.prefix_concat_iff] at beyond
    obtain ⟨rfl, whole | part⟩ := beyond
    · refine .inl ⟨digits, numeral, ?_⟩
      rw [whole]
      exact List.prefix_rfl
    · refine .inr ⟨left, ?_, List.suffix_rfl⟩
      exact fun d member => numeral.2 d (part.subset member)

theorem scan_append
    {left : List Char}
    (closed : ¬ LeavesOpen left)
    (right : List Char) :
    scan (left ++ right) = scan left ++ scan right := by
  induction left using cutting with
  | nil => rw [scan, List.nil_append, List.nil_append]
  | slot digits rest numeral inductionHypothesis =>
      have closedRest : ¬ LeavesOpen rest := fun opened => closed (opened.append_left _)
      rw [List.append_assoc, scan_slotChars_append numeral, scan_slotChars_append numeral,
        inductionHypothesis closedRest, List.cons_append]
  | plain c rest apart inductionHypothesis =>
      have closedRest : ¬ LeavesOpen rest := fun opened => closed (opened.append_left [c])
      have stillApart : ¬ StartsWithSlot (c :: (rest ++ right)) := by
        intro starts
        exact (startsWithSlot_or_leavesOpen starts).elim apart closed
      rw [List.cons_append, scan_cons stillApart, scan_cons apart, inductionHypothesis closedRest,
        List.cons_append]

/-- A run without a character ends before it. -/
theorem startsWith_of_not_mem
    {c : Char}
    {run left right : List Char}
    (none : c ∉ run)
    (starts : run <+: left ++ c :: right) :
    run <+: left := by
  rcases List.prefix_or_prefix_of_prefix starts (List.prefix_append _ _) with within | beyond
  · exact within
  · obtain ⟨rest, rfl⟩ := beyond
    cases rest with
    | nil => rw [List.append_nil]
    | cons d rest =>
        rw [List.prefix_append_right_inj, List.cons_prefix_cons] at starts
        exact absurd (by simp [starts.1]) none

/-- An opening brace is always scanned anew. -/
theorem scan_append_brace (left right : List Char) :
    scan (left ++ '\x7b' :: right) = scan left ++ scan ('\x7b' :: right) := by
  induction left using cutting with
  | nil => rw [scan, List.nil_append, List.nil_append]
  | slot digits rest numeral inductionHypothesis =>
      rw [List.append_assoc, scan_slotChars_append numeral, scan_slotChars_append numeral,
        inductionHypothesis, List.cons_append]
  | plain c rest apart inductionHypothesis =>
      have stillApart : ¬ StartsWithSlot (c :: (rest ++ '\x7b' :: right)) := by
        rintro ⟨digits, numeral, starts⟩
        rw [slotChars, List.cons_append, List.cons_prefix_cons] at starts
        refine apart ⟨digits, numeral, List.cons_prefix_cons.mpr ⟨starts.1, ?_⟩⟩
        exact startsWith_of_not_mem (brace_not_mem_of_isNumeral numeral.2) starts.2
      rw [List.cons_append, scan_cons stillApart, scan_cons apart, inductionHypothesis,
        List.cons_append]

/-- A text is cut by itself, whatever follows it, exactly if it leaves no placeholder open. -/
theorem scan_append_iff (left : List Char) :
    (∀ right, scan (left ++ right) = scan left ++ scan right) ↔ ¬ LeavesOpen left := by
  constructor
  · rintro apart ⟨digits, isDigit, before, rfl⟩
    -- One more digit and a closing brace would finish the placeholder.
    have numeral : IsNumeral (digits ++ ['0']) := by
      refine ⟨by simp, ?_⟩
      rw [List.forall_mem_append]
      exact ⟨isDigit, by simp⟩
    have finished : scan (before ++ '\x7b' :: digits ++ ['0', '\x7d']) =
        scan before ++ [.slot (digits ++ ['0'])] := by
      have joined : before ++ '\x7b' :: digits ++ ['0', '\x7d'] =
          before ++ (slotChars (digits ++ ['0']) ++ []) := by
        simp [slotChars]
      have slot := scan_slotChars_append numeral []
      rw [scan] at slot
      rw [joined, ← slot, slotChars, List.cons_append, List.cons_append, scan_append_brace]
    have split := apart ['0', '\x7d']
    rw [finished, scan_append_brace, List.append_assoc, List.append_cancel_left_eq] at split
    have pieces : scan ['0', '\x7d'] = [.plain '0', .plain '\x7d'] := by decide
    have count := congrArg List.length split
    rw [pieces, List.length_append, List.length_singleton, List.length_cons,
      List.length_singleton] at count
    omega
  · exact fun closed right => scan_append closed right

end Piece
end Concord
