import Concord.Number.Decimal.Printer
import Concord.Number.Decimal.Reader
import Concord.Number.Error
import Concord.Proofs.Text.Trimming

/-!
# Reading written decimals

A decimal is written as digits before the point, digits behind it and an
exponent, of which the last two may be missing.  Reading puts these parts
together again, so that every decimal whose exponents can be read at all is
read back as itself, digit for digit.
-/

namespace Concord

namespace ExtendedDecimal

/-- A character that is read as it stands, the case of a letter apart. -/
def IsVisible (c : Char) : Prop :=
  (0x20 < c.toNat ∧ c.toNat < 0x7F) ∧ c ≠ '_'

instance decidableIsVisible (c : Char) : Decidable (IsVisible c) :=
  inferInstanceAs (Decidable (_ ∧ _))

theorem filter_of_visible
    {cs : List Char}
    (visible : ∀ c ∈ cs, IsVisible c) :
    (cs.filter fun c => c ≠ '_') = cs := by
  rw [List.filter_eq_self]
  intro c member
  exact decide_eq_true (visible c member).2

theorem mapM_asciiForm?_of_visible
    {cs : List Char}
    (visible : ∀ c ∈ cs, IsVisible c) :
    cs.mapM asciiForm? = some cs := by
  induction cs with
  | nil => rfl
  | cons c rest inductionHypothesis =>
      have plain : asciiForm? c = some c := by
        have := (visible c List.mem_cons_self).1.2
        rw [asciiForm?, if_pos (by omega)]
      have later := inductionHypothesis fun c member => visible c (List.mem_cons_of_mem _ member)
      rw [List.mapM_cons, plain, later]
      rfl

/-- Visible characters are only put in lowercase before they are read. -/
theorem normalForm?_of_visible
    {cs : List Char}
    (visible : ∀ c ∈ cs, IsVisible c) :
    normalForm? cs = some (cs.map Char.toLower) := by
  have trimmed : Text.trimBlanks cs = cs :=
    Text.trimBy_of_none fun c member => Text.not_isBlank_of_visible (visible c member).1
  rw [normalForm?, trimmed, filter_of_visible visible, mapM_asciiForm?_of_visible visible,
    Option.map_some]

theorem code_of_isDigit
    {c : Char}
    (digit : c.isDigit = true) :
    0x30 ≤ c.toNat ∧ c.toNat ≤ 0x39 := by
  simp [Char.isDigit, UInt32.le_iff_toNat_le] at digit
  exact digit

theorem isVisible_of_isDigit
    {c : Char}
    (digit : c.isDigit = true) :
    IsVisible c := by
  have code := code_of_isDigit digit
  refine ⟨by omega, ?_⟩
  rintro rfl
  cases digit

theorem toLower_of_isDigit
    {c : Char}
    (digit : c.isDigit = true) :
    c.toLower = c := by
  have code := code_of_isDigit digit
  refine dif_neg ?_
  rintro ⟨atLeast, _⟩
  have : 0x41 ≤ c.toNat := UInt32.le_iff_toNat_le.mp atLeast
  omega

/-- Digits are read as the number that they make. -/
theorem numeral?_of_digits
    {cs : List Char}
    (nonempty : cs ≠ [])
    (digits : ∀ c ∈ cs, c.isDigit = true) :
    numeral? cs = some (Nat.ofDigitChars 10 cs 0) := by
  rw [numeral?, if_pos ⟨nonempty, List.all_eq_true.mpr digits⟩]

end ExtendedDecimal

/-! ## The parts of a written decimal -/

theorem isDigit_of_mem_toDigits
    {n : Nat}
    {c : Char}
    (member : c ∈ Nat.toDigits 10 n) :
    c.isDigit = true :=
  Nat.isDigit_of_mem_toDigits (by decide) (by decide) member

namespace Decimal

/-- The digits behind a point; without any the point is left out. -/
def pointed : List Char -> List Char
  | [] => []
  | fraction => '.' :: fraction

/-- The mark of an exponent; it is left out for zero. -/
def marked (letter : Char) (exponent : Int) : List Char :=
  if exponent = 0 then [] else letter :: signedExponent exponent

/-- The parts that a decimal is written in: digits on both sides of the point, and an exponent. -/
structure HasParts (d : Decimal) (whole fraction : List Char) (leading : Int) : Prop where
  /-- Without its sign the decimal is written as these parts, one after the other. -/
  chars : d.unsignedChars = whole ++ pointed fraction ++ marked 'E' leading
  /-- There is a digit before the point. -/
  nonempty : whole ≠ []
  /-- Before the point stand digits only. -/
  wholeDigits : ∀ c ∈ whole, c.isDigit = true
  /-- After the point stand digits only. -/
  fractionDigits : ∀ c ∈ fraction, c.isDigit = true
  /-- The digits on both sides together are the coefficient. -/
  coefficient : Nat.ofDigitChars 10 (whole ++ fraction) 0 = d.coefficient
  /-- The written exponent less the places after the point is the exponent. -/
  exponent : leading - fraction.length = d.exponent

/-- Zeros in front of digits are digits. -/
theorem isDigit_of_mem_padded
    {digits : List Char}
    (isDigit : ∀ c ∈ digits, c.isDigit = true)
    (count : Nat) :
    ∀ c ∈ List.replicate count '0' ++ digits, c.isDigit = true := by
  intro c member
  rcases List.mem_append.mp member with zero | digit
  · rw [List.eq_of_mem_replicate zero]
    rfl
  · exact isDigit c digit

theorem digits_ne_nil (d : Decimal) : d.digits ≠ [] :=
  Nat.toDigits_ne_nil

/-- A written number has at least one digit before the point, a zero if there is none. -/
theorem withPoint_eq
    {digits : List Char}
    (nonempty : digits ≠ [])
    (places : Nat) :
    ∃ whole fraction : List Char,
      withPoint places digits = whole ++ pointed fraction ∧
      whole ++ fraction = List.replicate (places + 1 - digits.length) '0' ++ digits ∧
      whole ≠ [] ∧ fraction.length = places := by
  have some_digit := List.length_pos_of_ne_nil nonempty
  by_cases none : places = 0
  · refine ⟨digits, [], ?_, ?_, nonempty, none.symm⟩
    · rw [withPoint, if_pos none, pointed, List.append_nil]
    · rw [none, Nat.sub_eq_zero_of_le (by omega), List.replicate_zero, List.nil_append,
        List.append_nil]
  · let filled := List.replicate (places + 1 - digits.length) '0' ++ digits
    have long : places < filled.length := by
      simp only [filled, List.length_append, List.length_replicate]
      omega
    have behind : (filled.drop (filled.length - places)).length = places := by
      rw [List.length_drop]
      omega
    have pointKept : pointed (filled.drop (filled.length - places)) =
        '.' :: filled.drop (filled.length - places) := by
      cases fraction : filled.drop (filled.length - places) with
      | nil => exact absurd (fraction ▸ behind).symm none
      | cons first rest => rfl
    refine ⟨filled.take (filled.length - places), filled.drop (filled.length - places),
      ?_, List.take_append_drop _ _, ?_, behind⟩
    · rw [withPoint, if_neg none, pointKept]
    · apply List.ne_nil_of_length_pos
      rw [List.length_take]
      omega

/-- One digit before the point, the others behind it. -/
theorem pointAfterFirst_eq (first : Char) (rest : List Char) :
    pointAfterFirst (first :: rest) = [first] ++ pointed rest := by
  cases rest <;> rfl

/-- Every decimal is written in such parts. -/
theorem hasParts (d : Decimal) : ∃ whole fraction leading, d.HasParts whole fraction leading := by
  by_cases plain : d.exponent ≤ 0 ∧ leastPlainExponent ≤ d.adjusted
  · obtain ⟨whole, fraction, written, together, nonempty, places⟩ :=
      withPoint_eq d.digits_ne_nil (-d.exponent).toNat
    have digits : ∀ c ∈ whole ++ fraction, c.isDigit = true := by
      rw [together]
      exact isDigit_of_mem_padded (fun _ => isDigit_of_mem_toDigits) _
    refine ⟨whole, fraction, 0, ?_, nonempty, fun c member => digits c (by simp [member]),
      fun c member => digits c (by simp [member]), ?_, ?_⟩
    · rw [unsignedChars, if_pos plain, written]
      simp [marked]
    · rw [together, Nat.ofDigitChars_append, Nat.ofDigitChars_replicate_zero, Nat.mul_zero]
      exact Nat.ofDigitChars_ten_toDigits
    · rw [places]
      omega
  · cases digits : d.digits with
    | nil => exact absurd digits d.digits_ne_nil
    | cons first rest =>
        have count : d.digitCount = rest.length + 1 := by
          rw [digitCount, digits, List.length_cons]
        have isDigit : ∀ c ∈ first :: rest, c.isDigit = true := by
          rw [← digits]
          exact fun _ => isDigit_of_mem_toDigits
        refine ⟨[first], rest, d.adjusted, ?_, by simp, ?_, ?_, ?_, ?_⟩
        · rw [unsignedChars, if_neg plain, digits, pointAfterFirst_eq]
          rfl
        · exact fun c member => isDigit c (by simp_all)
        · exact fun c member => isDigit c (by simp_all)
        · rw [List.singleton_append, ← digits]
          exact Nat.ofDigitChars_ten_toDigits
        · rw [adjusted, count]
          omega

end Decimal

namespace ExtendedDecimal

/-! ## Reading the parts -/

theorem takeWhile_digits
    {digits rest : List Char}
    (isDigit : ∀ c ∈ digits, c.isDigit = true)
    (stops : rest.takeWhile Char.isDigit = []) :
    (digits ++ rest).takeWhile Char.isDigit = digits ∧
      (digits ++ rest).dropWhile Char.isDigit = rest := by
  have remaining : rest.dropWhile Char.isDigit = rest := by
    simpa [stops] using List.takeWhile_append_dropWhile (p := Char.isDigit) (l := rest)
  rw [List.takeWhile_append_of_pos isDigit, List.dropWhile_append_of_pos isDigit, stops, remaining,
    List.append_nil]
  exact ⟨rfl, rfl⟩

/-- An exponent is read back behind its mark. -/
theorem exponent?_marked (exponent : Int) :
    exponent? (Decimal.marked 'e' exponent) = some exponent := by
  unfold Decimal.marked
  split
  · rename_i zero
    rw [zero]
    rfl
  · have digits : numeral? (Nat.toDigits 10 exponent.natAbs) = some exponent.natAbs := by
      rw [numeral?_of_digits Nat.toDigits_ne_nil fun _ => isDigit_of_mem_toDigits,
        Nat.ofDigitChars_ten_toDigits]
    unfold Decimal.signedExponent
    split
    · have restored : -(exponent.natAbs : Int) = exponent := by omega
      refine Eq.trans ?_ (congrArg some restored)
      simp only [exponent?, splitSign, digits, if_true]
      rfl
    · have restored : (exponent.natAbs : Int) = exponent := by omega
      refine Eq.trans ?_ (congrArg some restored)
      simp only [exponent?, splitSign, digits, Bool.false_eq_true, if_false]
      rfl

/-- An exponent mark ends the digits in front of it. -/
theorem takeWhile_marked (exponent : Int) :
    (Decimal.marked 'e' exponent).takeWhile Char.isDigit = [] := by
  unfold Decimal.marked
  split <;> rfl

/-- The digits behind the point are read up to the mark of the exponent. -/
theorem splitFraction_pointed
    {fraction : List Char}
    (isDigit : ∀ c ∈ fraction, c.isDigit = true)
    (exponent : Int) :
    splitFraction (Decimal.pointed fraction ++ Decimal.marked 'e' exponent) =
      (fraction, Decimal.marked 'e' exponent) := by
  cases fraction with
  | nil =>
      unfold Decimal.marked
      split <;> rfl
  | cons first rest =>
      obtain ⟨taken, dropped⟩ := takeWhile_digits isDigit (takeWhile_marked exponent)
      rw [Decimal.pointed, List.cons_append, splitFraction, taken, dropped]
      simp

/-- The parts of a decimal are read as the decimal. -/
theorem readFinite_parts
    {whole fraction : List Char}
    (nonempty : whole ≠ [])
    (wholeDigits : ∀ c ∈ whole, c.isDigit = true)
    (fractionDigits : ∀ c ∈ fraction, c.isDigit = true)
    (negative : Bool)
    (exponent : Int) :
    readFinite negative
        (whole ++ (Decimal.pointed fraction ++ Decimal.marked 'e' exponent)) =
      let d : Decimal := ⟨negative, Nat.ofDigitChars 10 (whole ++ fraction) 0,
        exponent - fraction.length⟩
      if inRange d then some d else none := by
  have stops : (Decimal.pointed fraction ++ Decimal.marked 'e' exponent).takeWhile
      Char.isDigit = [] := by
    cases fraction with
    | nil => exact takeWhile_marked exponent
    | cons first rest => rfl
  obtain ⟨taken, dropped⟩ := takeWhile_digits wholeDigits stops
  have digits : ∀ c ∈ whole ++ fraction, c.isDigit = true := by
    intro c member
    exact (List.mem_append.mp member).elim (wholeDigits c) (fractionDigits c)
  rw [readFinite, taken, dropped, splitFraction_pointed fractionDigits]
  simp only [numeral?_of_digits (by simp [nonempty]) digits, exponent?_marked]

/-- A text that starts with a digit is read as a number and not as a word. -/
theorem readUnsigned_of_isDigit
    {first : Char}
    (digit : first.isDigit = true)
    (negative : Bool)
    (rest : List Char) :
    readUnsigned negative (first :: rest) =
      (readFinite negative (first :: rest)).map .finite := by
  unfold readUnsigned
  split
  · rename_i same
    cases same
    cases digit
  · rename_i same
    cases same
    cases digit
  · rw [if_neg]
    rintro (same | same)
    all_goals
      cases same
      cases digit

theorem splitSign_of_ne
    {first : Char}
    (noMinus : first ≠ '-')
    (noPlus : first ≠ '+')
    (rest : List Char) :
    splitSign (first :: rest) = (false, first :: rest) := by
  unfold splitSign
  split
  · rename_i same
    cases same
    exact absurd rfl noMinus
  · rename_i same
    cases same
    exact absurd rfl noPlus
  · rfl

/-- What begins with a digit has no sign. -/
theorem splitSign_of_isDigit
    {first : Char}
    (digit : first.isDigit = true)
    (rest : List Char) :
    splitSign (first :: rest) = (false, first :: rest) := by
  apply splitSign_of_ne
  · rintro rfl
    cases digit
  · rintro rfl
    cases digit

/-! ## Reading what was written -/

theorem map_toLower_of_digits
    {cs : List Char}
    (digits : ∀ c ∈ cs, c.isDigit = true) :
    cs.map Char.toLower = cs := by
  conv_rhs => rw [← List.map_id cs]
  exact List.map_congr_left fun c member => toLower_of_isDigit (digits c member)

theorem isVisible_marked
    (exponent : Int) :
    ∀ c ∈ Decimal.marked 'E' exponent, IsVisible c := by
  intro c member
  unfold Decimal.marked Decimal.signedExponent at member
  split at member
  · cases member
  · rcases List.mem_cons.mp member with rfl | member
    · decide
    · rcases List.mem_cons.mp member with rfl | digit
      · split <;> decide
      · exact isVisible_of_isDigit (isDigit_of_mem_toDigits digit)

theorem isVisible_pointed
    {fraction : List Char}
    (isDigit : ∀ c ∈ fraction, c.isDigit = true) :
    ∀ c ∈ Decimal.pointed fraction, IsVisible c := by
  cases fraction with
  | nil => exact fun c member => absurd member List.not_mem_nil
  | cons first rest =>
      intro c member
      rcases List.mem_cons.mp member with rfl | digit
      · decide
      · exact isVisible_of_isDigit (isDigit c digit)

theorem map_toLower_marked (exponent : Int) :
    (Decimal.marked 'E' exponent).map Char.toLower = Decimal.marked 'e' exponent := by
  unfold Decimal.marked Decimal.signedExponent
  split
  · rfl
  · rw [List.map_cons, List.map_cons, map_toLower_of_digits fun _ => isDigit_of_mem_toDigits]
    split <;> rfl

theorem map_toLower_pointed
    {fraction : List Char}
    (isDigit : ∀ c ∈ fraction, c.isDigit = true) :
    (Decimal.pointed fraction).map Char.toLower = Decimal.pointed fraction := by
  cases fraction with
  | nil => rfl
  | cons first rest =>
      rw [Decimal.pointed, List.map_cons, map_toLower_of_digits isDigit]
      · rfl
      · exact List.cons_ne_nil first rest

/-- A written decimal is read as itself. -/
theorem ofChars?_chars
    {d : Decimal}
    (readable : inRange d = true) :
    ofChars? d.chars = some (.finite d) := by
  obtain ⟨whole, fraction, leading, parts⟩ := d.hasParts
  have unsignedVisible : ∀ c ∈ d.unsignedChars, IsVisible c := by
    intro c member
    rw [parts.chars, List.mem_append, List.mem_append] at member
    rcases member with (whole | fraction) | mark
    · exact isVisible_of_isDigit (parts.wholeDigits c whole)
    · exact isVisible_pointed parts.fractionDigits c fraction
    · exact isVisible_marked leading c mark
  have lowered : d.unsignedChars.map Char.toLower =
      whole ++ (Decimal.pointed fraction ++ Decimal.marked 'e' leading) := by
    rw [parts.chars, List.map_append, List.map_append, map_toLower_of_digits parts.wholeDigits,
      map_toLower_pointed parts.fractionDigits, map_toLower_marked, List.append_assoc]
  have finite : readFinite d.negative (d.unsignedChars.map Char.toLower) = some d := by
    rw [lowered, readFinite_parts parts.nonempty parts.wholeDigits parts.fractionDigits,
      parts.coefficient, parts.exponent]
    exact if_pos readable
  obtain ⟨first, rest, startsWith⟩ := List.exists_cons_of_ne_nil parts.nonempty
  have digit : first.isDigit = true := parts.wholeDigits first (by simp [startsWith])
  have starts : d.unsignedChars.map Char.toLower =
      first :: (rest ++ (Decimal.pointed fraction ++ Decimal.marked 'e' leading)) := by
    rw [lowered, startsWith, List.cons_append]
  have read : readUnsigned d.negative (d.unsignedChars.map Char.toLower) = some (.finite d) := by
    rw [starts, readUnsigned_of_isDigit digit, ← starts, finite, Option.map_some]
  rw [ofChars?, Decimal.chars]
  cases sign : d.negative with
  | true =>
      have visible : ∀ c ∈ '-' :: d.unsignedChars, IsVisible c := by
        intro c member
        rcases List.mem_cons.mp member with rfl | member
        · decide
        · exact unsignedVisible c member
      rw [if_pos rfl, normalForm?_of_visible visible, List.map_cons, Option.bind_some]
      rw [sign] at read
      exact read
  | false =>
      rw [if_neg (by decide), normalForm?_of_visible unsignedVisible, Option.bind_some]
      rw [starts, sign] at read
      rw [starts, splitSign_of_isDigit digit]
      exact read

/-- A decimal within the range is read back from its text. -/
theorem ofText?_text
    {d : Decimal}
    (readable : inRange d = true) :
    ofText? d.text = some (.finite d) := by
  rw [ofText?, Decimal.text, String.toList_ofList, ofChars?_chars readable]

/-- Blanks around a number make no difference to what is read. -/
theorem ofText?_stripped (text : String) : ofText? (Text.stripped text) = ofText? text := by
  rw [ofText?, ofText?, Text.toList_stripped, ofChars?, ofChars?, normalForm?, normalForm?,
    Text.trimBlanks, Text.trimBlanks, Text.trimBy_trimBy]

end ExtendedDecimal

/-! ## Whole numbers -/

namespace Decimal

/-- A whole number has the digits of the decimal without places. -/
theorem text_ofInt (n : Int) : (ofInt n).text = Int.repr n := by
  have positive := (ofInt n).digitCount_pos
  have exponent : (ofInt n).exponent = 0 := rfl
  have plain : (ofInt n).exponent ≤ 0 ∧ leastPlainExponent ≤ (ofInt n).adjusted := by
    rw [adjusted, exponent, leastPlainExponent]
    omega
  have unsigned : (ofInt n).unsignedChars = Nat.toDigits 10 n.natAbs := if_pos plain
  rw [text, chars, unsigned, Int.repr_eq_if]
  by_cases negative : n < 0
  · have size : (-n).toNat = n.natAbs := by omega
    have sign : (ofInt n).negative = true := decide_eq_true negative
    rw [if_pos sign, if_neg (by omega), size, Nat.repr_eq_ofList_toDigits]
    rw [← List.singleton_append, String.ofList_append]
  · have size : n.toNat = n.natAbs := by omega
    have sign : ¬ (ofInt n).negative = true := by simpa [ofInt] using negative
    rw [if_neg sign, if_pos (by omega), size, Nat.repr_eq_ofList_toDigits]

/-- An integer can be written exactly if its digits are not too many. -/
theorem digitCount_ofInt_le_iff (n : Int) :
    (ofInt n).digitCount ≤ digitLimit ↔ isWritable n = true := by
  have bounded : isWritable n = true ↔ n.natAbs < firstUnwritable := decide_eq_true_iff
  delta firstUnwritable at bounded
  rw [bounded]
  exact digitCount_le_iff (by decide)

theorem inRange_ofInt
    {n : Int}
    (writable : isWritable n = true) :
    ExtendedDecimal.inRange (ofInt n) = true := by
  have short := (digitCount_ofInt_le_iff n).mpr writable
  have exponent : (ofInt n).exponent = 0 := rfl
  have leading : (ofInt n).adjusted ≤ ExtendedDecimal.largestReadable := by
    rw [digitLimit] at short
    rw [adjusted, exponent, ExtendedDecimal.largestReadable]
    omega
  rw [ExtendedDecimal.inRange, exponent]
  split
  · rfl
  · exact Bool.and_eq_true_iff.mpr ⟨rfl, decide_eq_true leading⟩

end Decimal

/-- An integer that can be written is read back from its text. -/
theorem ExtendedDecimal.ofText?_repr
    {n : Int}
    (writable : isWritable n = true) :
    ofText? (Int.repr n) = some (.finite (.ofInt n)) := by
  rw [← Decimal.text_ofInt, ofText?_text (Decimal.inRange_ofInt writable)]

end Concord
