import Concord.Proofs.Plural.PlainNotation
import Concord.Proofs.Rendering.Cutting
import Mathlib.Data.List.Forall2

/-!
# Filling placeholders

Every placeholder of a text is replaced by itself, and everything else stays
where it is.  What replaces a placeholder is the written form of the entry
that the arguments have at its number; where they have none, the placeholder
stays as it is written.  The only thing that can go wrong is an entry that
cannot be written.
-/

namespace Concord

namespace Value

/--
The entry that a collection has at a number: a list or tuple the item at that
position, a mapping the value under the number or, if that is no key, under its
digits.
-/
inductive HasAt : Value -> Nat -> Value -> Prop
  | listed {items : List Value} {number : Nat} {value : Value} :
      items[number]? = some value -> HasAt (.list items) number value
  | tupled {items : List Value} {number : Nat} {value : Value} :
      items[number]? = some value -> HasAt (.tuple items) number value
  | numbered {entries : List (Value × Value)} {number : Nat} {value : Value} :
      find? entries (.integer number) = some value -> HasAt (.map entries) number value
  | spelled {entries : List (Value × Value)} {number : Nat} {value : Value} :
      find? entries (.integer number) = none ->
      find? entries (.text (Int.repr number)) = some value -> HasAt (.map entries) number value

/-- Whether a value holds others by position or key. -/
def isCollection : Value -> Bool
  | .list _ | .tuple _ | .map _ => true
  | _ => false

/-- What stands for a piece of a text that is filled. -/
inductive Fills (arguments : Value) : Piece -> List Char -> Prop
  | plain (c : Char) : Fills arguments (.plain c) [c]
  | entry {digits : List Char} {value : Value} {text : String} :
      arguments.HasAt (Nat.ofDigitChars 10 digits 0) value ->
      (unwrapped value).argumentText = .ok text -> Fills arguments (.slot digits) text.toList
  | untouched {digits : List Char} :
      (∀ value, ¬ arguments.HasAt (Nat.ofDigitChars 10 digits 0) value) ->
      Fills arguments (.slot digits) (Piece.slotChars digits)

/-- The entry that a piece asks for cannot be written. -/
inductive CannotFill (arguments : Value) : Piece -> Prop
  | slot {digits : List Char} {value : Value} :
      arguments.HasAt (Nat.ofDigitChars 10 digits 0) value ->
      (unwrapped value).isWritable = false -> CannotFill arguments (.slot digits)

/--
The outcome of filling a text that is cut into pieces: what stands for the
pieces, one after the other, unless an entry that is asked for cannot be
written.
-/
structure FillsAll (arguments : Value) (pieces : List Piece)
    (outcome : Except NumberError String) : Prop where
  /-- The text consists of what stands for the pieces, in their order. -/
  succeeds : ∀ filled, outcome = .ok filled ↔
    ∃ parts, List.Forall₂ arguments.Fills pieces parts ∧ filled = String.ofList parts.flatten
  /-- The only error is that of a piece that cannot be filled. -/
  fails : ∀ error, outcome = .error error ↔
    error = .unwritable ∧ ∃ piece ∈ pieces, arguments.CannotFill piece

/-! ## Entries -/

/-- The entry at a number is what is looked up at the position of that number. -/
theorem hasAt_iff {values : Value} {number : Nat} {value : Value} :
    values.HasAt number value ↔ values.entryAt? number = some value := by
  have notNegative : ¬ (number : Int) < 0 := by omega
  have positioned (items : List Value) :
      (if (number : Int) < 0 then none else items[(number : Int).toNat]?) = items[number]? := by
    rw [if_neg notNegative, Int.toNat_natCast]
  constructor
  · intro has
    cases has with
    | listed found | tupled found => rw [entryAt?, positioned, found]
    | numbered found => rw [entryAt?, numbered?, found, Option.some_or]
    | spelled missing found => rw [entryAt?, numbered?, missing, Option.none_or, found]
  · intro found
    cases values with
    | list items => exact .listed ((positioned items).symm.trans found)
    | tuple items => exact .tupled ((positioned items).symm.trans found)
    | map entries =>
        rw [entryAt?, numbered?, Option.or_eq_some_iff] at found
        rcases found with found | ⟨missing, found⟩
        · exact .numbered found
        · exact .spelled missing found
    | _ => cases found

theorem not_hasAt_iff {values : Value} {number : Nat} :
    (∀ value, ¬ values.HasAt number value) ↔ values.entryAt? number = none := by
  simp only [hasAt_iff, Option.eq_none_iff_forall_ne_some]

theorem not_hasAt_of_not_isCollection
    {values : Value}
    (single : values.isCollection = false)
    (number : Nat)
    (value : Value) :
    ¬ values.HasAt number value := by
  intro has
  cases has <;> cases single

/-- What is looked up at a position, unless it is nothing, is the entry at its number. -/
theorem exists_entryAt_of_isWritable
    (values : Value)
    {number : Nat}
    (writable : Concord.isWritable number = true) :
    ∃ value, values.entryAt (some (number : Int)) = .ok value ∧
      (value ≠ .null -> values.HasAt number value) := by
  have readable : ¬ values.needsLongDigits number = true := by
    cases values with
    | map entries => simp [needsLongDigits, writable]
    | _ => simp [needsLongDigits]
  refine ⟨(values.entryAt? number).getD .null, if_neg readable, ?_⟩
  intro present
  rw [hasAt_iff]
  cases found : values.entryAt? number with
  | none => simp [found] at present
  | some value => rfl

end Value

/-- A slot whose digits are not too many to be read. -/
def Piece.IsShort : Piece -> Prop
  | .plain _ => True
  | .slot digits => digits.length ≤ digitLimit

variable {arguments : Value}

/-! ## One piece -/

theorem slotText_of_short
    {digits : List Char}
    (short : digits.length ≤ digitLimit) :
    slotText arguments digits =
      match arguments.entryAt? (Nat.ofDigitChars 10 digits 0) with
      | none => .ok (Piece.slotChars digits)
      | some value => (unwrapped value).argumentText.map String.toList := by
  rw [slotText, checkDigitCount_of_le short]
  cases arguments.entryAt? (Nat.ofDigitChars 10 digits 0) with
  | none => rfl
  | some value =>
      dsimp only [bind, Except.bind]
      cases (unwrapped value).argumentText <;> rfl

section

variable {piece : Piece} (short : piece.IsShort)

include short

/-- What stands for a piece is the text that it is replaced by. -/
theorem pieceText_eq_ok_iff {part : List Char} :
    pieceText arguments piece = .ok part ↔ arguments.Fills piece part := by
  cases piece with
  | plain c =>
      constructor
      · rintro ⟨⟩
        exact .plain c
      · rintro ⟨⟩
        rfl
  | slot digits =>
      rw [pieceText, slotText_of_short short]
      constructor
      · intro replaced
        cases found : arguments.entryAt? (Nat.ofDigitChars 10 digits 0) with
        | none =>
            rw [found] at replaced
            cases replaced
            exact .untouched (Value.not_hasAt_iff.mpr found)
        | some value =>
            cases written : (unwrapped value).argumentText with
            | error error => simp [found, written, Except.map] at replaced
            | ok text =>
                simp only [found, written, Except.map, Except.ok.injEq] at replaced
                exact replaced ▸ .entry (Value.hasAt_iff.mpr found) written
      · intro fills
        cases fills with
        | entry has written => simp only [Value.hasAt_iff.mp has, written, Except.map]
        | untouched missing => simp only [Value.not_hasAt_iff.mp missing]

/-- The only error at a piece is an entry that cannot be written. -/
theorem pieceText_eq_error_iff {error : NumberError} :
    pieceText arguments piece = .error error ↔
      error = .unwritable ∧ arguments.CannotFill piece := by
  cases piece with
  | plain c =>
      constructor
      · rintro ⟨⟩
      · rintro ⟨-, ⟨⟩⟩
  | slot digits =>
      rw [pieceText, slotText_of_short short]
      constructor
      · intro failed
        cases found : arguments.entryAt? (Nat.ofDigitChars 10 digits 0) with
        | none => simp [found] at failed
        | some value =>
            simp only [found, Value.argumentText, Value.whenWritable] at failed
            split at failed
            · cases failed
            · rename_i unwritable
              cases failed
              exact ⟨rfl, .slot (Value.hasAt_iff.mpr found) (by simpa using unwritable)⟩
      · rintro ⟨rfl, ⟨has, unwritable⟩⟩
        simp [Value.hasAt_iff.mp has, Value.argumentText_of_unwritable unwritable, Except.map]

end

/-! ## All pieces -/

theorem piecesText_cons_eq_ok_iff
    {piece : Piece}
    {rest : List Piece}
    {filled : List Char} :
    piecesText arguments (piece :: rest) = .ok filled ↔
      ∃ part others, pieceText arguments piece = .ok part ∧
        piecesText arguments rest = .ok others ∧ filled = part ++ others := by
  rw [piecesText]
  cases pieceText arguments piece with
  | error error => simp [bind, Except.bind]
  | ok part =>
      cases piecesText arguments rest with
      | error error => simp [bind, Except.bind]
      | ok others => simp [bind, Except.bind, pure, Except.pure, eq_comm]

theorem piecesText_cons_eq_error_iff
    {piece : Piece}
    {rest : List Piece}
    {error : NumberError} :
    piecesText arguments (piece :: rest) = .error error ↔
      pieceText arguments piece = .error error ∨
        (∃ part, pieceText arguments piece = .ok part) ∧
          piecesText arguments rest = .error error := by
  rw [piecesText]
  cases pieceText arguments piece with
  | error error => simp [bind, Except.bind]
  | ok part => cases piecesText arguments rest <;> simp [bind, Except.bind, pure, Except.pure]

/-- Without an entry for any of them, pieces stand for themselves. -/
theorem fills_chars_of_no_entries
    {pieces : List Piece}
    (missing : ∀ digits, Piece.slot digits ∈ pieces ->
      ∀ value, ¬ arguments.HasAt (Nat.ofDigitChars 10 digits 0) value) :
    List.Forall₂ arguments.Fills pieces (pieces.map Piece.chars) := by
  rw [List.forall₂_map_right_iff, List.forall₂_same]
  intro piece member
  cases piece with
  | plain c => exact .plain c
  | slot digits => exact .untouched (missing digits member)

section

variable {pieces : List Piece} (short : ∀ piece ∈ pieces, piece.IsShort)

include short

/-- Pieces are replaced by what stands for them, one after the other. -/
theorem piecesText_eq_ok_iff (filled : List Char) :
    piecesText arguments pieces = .ok filled ↔
      ∃ parts, List.Forall₂ arguments.Fills pieces parts ∧ filled = parts.flatten := by
  induction pieces generalizing filled with
  | nil => simp [piecesText, eq_comm]
  | cons piece rest inductionHypothesis =>
      rw [List.forall_mem_cons] at short
      simp only [piecesText_cons_eq_ok_iff, pieceText_eq_ok_iff short.1,
        inductionHypothesis short.2, List.forall₂_cons_left_iff]
      constructor
      · rintro ⟨part, _, first, ⟨parts, later, rfl⟩, rfl⟩
        exact ⟨part :: parts, ⟨part, parts, first, later, rfl⟩, rfl⟩
      · rintro ⟨_, ⟨part, parts, first, later, rfl⟩, rfl⟩
        exact ⟨part, parts.flatten, first, ⟨parts, later, rfl⟩, rfl⟩

/-- The only error is an entry that is asked for and cannot be written. -/
theorem piecesText_eq_error_iff (error : NumberError) :
    piecesText arguments pieces = .error error ↔
      error = .unwritable ∧ ∃ piece ∈ pieces, arguments.CannotFill piece := by
  induction pieces with
  | nil => simp [piecesText]
  | cons piece rest inductionHypothesis =>
      rw [List.forall_mem_cons] at short
      rw [piecesText_cons_eq_error_iff, inductionHypothesis short.2,
        pieceText_eq_error_iff short.1, List.exists_mem_cons_iff]
      constructor
      · rintro (⟨unwritable, first⟩ | ⟨-, unwritable, later⟩)
        · exact ⟨unwritable, .inl first⟩
        · exact ⟨unwritable, .inr later⟩
      · rintro ⟨unwritable, first | later⟩
        · exact .inl ⟨unwritable, first⟩
        · cases replaced : pieceText arguments piece with
          | error other => exact .inl ⟨unwritable, ((pieceText_eq_error_iff short.1).mp replaced).2⟩
          | ok part => exact .inr ⟨⟨part, rfl⟩, unwritable, later⟩

/-- Where the arguments have no entry at all, everything stays as it is written. -/
theorem piecesText_of_no_entries (missing : ∀ number value, ¬ arguments.HasAt number value) :
    piecesText arguments pieces = .ok (pieces.flatMap Piece.chars) := by
  rw [piecesText_eq_ok_iff short]
  exact ⟨_, fills_chars_of_no_entries fun digits _ => missing _, List.flatMap_def⟩

end

/-! ## Texts -/

/-- A text all of whose placeholders are short enough to be read. -/
def HasShortSlots (text : List Char) : Prop :=
  ∀ digits, Piece.IsNumeral digits -> Piece.slotChars digits <:+: text ->
    digits.length ≤ digitLimit

/-- A number with at most so many digits is below the power of ten with as many zeros. -/
theorem ofDigitChars_lt_pow
    {digits : List Char}
    {count : Nat}
    (isDigit : ∀ c ∈ digits, c.isDigit = true)
    (few : digits.length ≤ count) :
    Nat.ofDigitChars 10 digits 0 < Nat.pow 10 count :=
  (ofDigitChars_lt isDigit).trans_le (Nat.pow_le_pow_right (by decide) few)

namespace HasShortSlots

variable {text : List Char} (short : HasShortSlots text)

include short

theorem length_le
    {digits : List Char}
    (member : Piece.slot digits ∈ Piece.scan text) :
    digits.length ≤ digitLimit :=
  short digits ((Piece.isCut_scan text).numerals digits member)
    ((Piece.isCut_scan text).slotChars_inside member)

theorem isShort : ∀ piece ∈ Piece.scan text, piece.IsShort := by
  intro piece member
  cases piece with
  | plain c => trivial
  | slot digits => exact short.length_le member

/-- The number of a placeholder can be written, so that it can be looked up as a key. -/
theorem isWritable
    {digits : List Char}
    (member : Piece.slot digits ∈ Piece.scan text) :
    Concord.isWritable (Nat.ofDigitChars 10 digits 0 : Nat) = true := by
  have numeral := (Piece.isCut_scan text).numerals digits member
  have bounded (number : Nat) :
      Concord.isWritable number = true ↔ (number : Int).natAbs < firstUnwritable :=
    decide_eq_true_iff
  delta firstUnwritable at bounded
  rw [bounded, Int.natAbs_natCast]
  exact ofDigitChars_lt_pow numeral.2 (short.length_le member)

theorem piecesText_scan_of_no_entries (missing : ∀ number value, ¬ arguments.HasAt number value) :
    piecesText arguments (Piece.scan text) = .ok text := by
  rw [piecesText_of_no_entries short.isShort missing, (Piece.isCut_scan text).whole]

end HasShortSlots

/-- Without arguments, too, a text is filled piece by piece. -/
theorem fillPlaceholders_eq
    {text : String}
    (short : HasShortSlots text.toList)
    (arguments : Value) :
    fillPlaceholders text arguments =
      (piecesText arguments (Piece.scan text.toList)).map String.ofList := by
  by_cases given : arguments = .null
  · rw [given, short.piecesText_scan_of_no_entries (Value.not_hasAt_of_not_isCollection rfl),
      Except.map, String.ofList_toList]
    rfl
  · exact fillPlaceholders_of_given given text

theorem fillsAll_fillPlaceholders
    {text : String}
    (short : HasShortSlots text.toList)
    (arguments : Value) :
    arguments.FillsAll (Piece.scan text.toList) (fillPlaceholders text arguments) := by
  rw [fillPlaceholders_eq short]
  constructor
  case succeeds =>
    intro filled
    constructor
    · intro result
      cases replaced : piecesText arguments (Piece.scan text.toList) with
      | error error => simp [replaced, Except.map] at result
      | ok chars =>
          obtain ⟨parts, fills, rfl⟩ := (piecesText_eq_ok_iff short.isShort chars).mp replaced
          rw [replaced] at result
          exact ⟨parts, fills, (Except.ok.inj result).symm⟩
    · rintro ⟨parts, fills, rfl⟩
      rw [(piecesText_eq_ok_iff short.isShort _).mpr ⟨parts, fills, rfl⟩]
      rfl
  case fails =>
    intro error
    rw [← piecesText_eq_error_iff short.isShort]
    cases piecesText arguments (Piece.scan text.toList) <;> simp [Except.map]

/--
A text with placeholders that are not too long is cut at all of them, in the
only way that there is, and each is replaced by the written form of the entry
at its number, or stays as it is if there is none; the replaced text is not
searched.  The entry is the one that terms find at the same position.  Only an
entry that cannot be written leaves the text without a result.
-/
theorem fillPlaceholders_substitutes
    {text : String}
    (short : HasShortSlots text.toList)
    (arguments : Value) :
    ∃ pieces, (∀ other, Piece.IsCut text.toList other ↔ other = pieces) ∧
      arguments.FillsAll pieces (fillPlaceholders text arguments) ∧
      (∀ digits, Piece.slot digits ∈ pieces ->
        ∃ value, arguments.entryAt (some (Nat.ofDigitChars 10 digits 0 : Nat)) = .ok value ∧
          (value ≠ .null -> arguments.HasAt (Nat.ofDigitChars 10 digits 0) value)) ∧
      (arguments.isCollection = false -> fillPlaceholders text arguments = .ok text) := by
  refine ⟨Piece.scan text.toList, Piece.isCut_iff text.toList,
    fillsAll_fillPlaceholders short arguments, ?_, ?_⟩
  · intro digits member
    exact arguments.exists_entryAt_of_isWritable (short.isWritable member)
  · intro single
    rw [fillPlaceholders_eq short,
      short.piecesText_scan_of_no_entries (Value.not_hasAt_of_not_isCollection single), Except.map,
      String.ofList_toList]

/-- Two placeholders that overlap a broken one, and a replacement that looks like a placeholder. -/
theorem fillPlaceholders_substitutes_once :
    HasShortSlots "\x7b1\x7b0\x7d".toList ∧
      fillPlaceholders "\x7b1\x7b0\x7d" (.list [.text "\x7b1\x7d", .text "x"]) =
        .ok "\x7b1\x7b1\x7d" := by
  have short : HasShortSlots "\x7b1\x7b0\x7d".toList := by
    intro digits _ inside
    have bound := inside.length_le
    have size : "\x7b1\x7b0\x7d".toList.length = 5 := by decide
    rw [size, Piece.slotChars, List.length_append, List.length_cons] at bound
    rw [digitLimit]
    omega
  refine ⟨short, ?_⟩
  obtain ⟨pieces, onlyCut, fills, -⟩ :=
    fillPlaceholders_substitutes short (.list [.text "\x7b1\x7d", .text "x"])
  have cut := (onlyCut _).mp (Piece.isCut_scan _)
  have scanned : Piece.scan "\x7b1\x7b0\x7d".toList =
      [.plain '\x7b', .plain '1', .slot ['0']] := by decide
  rw [← cut, scanned] at fills
  refine (fills.succeeds _).mpr ⟨[['\x7b'], ['1'], "\x7b1\x7d".toList], ?_, by decide⟩
  exact .cons (.plain _) (.cons (.plain _) (.cons (.entry (.listed rfl) rfl) .nil))

/-- A list with a number, or a term, that is too long to be written cannot be shown. -/
theorem fillPlaceholders_of_unwritable :
    fillPlaceholders "\x7b0\x7d" (.list [.integer (Int.ofNat firstUnwritable)]) =
        .error .unwritable ∧
      fillPlaceholders "\x7b0\x7d"
          (.list [.term (.counter (some (Int.ofNat firstUnwritable)))]) =
        .error .unwritable := by
  decide +kernel

end Concord
