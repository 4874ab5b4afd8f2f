import Concord.Plural.Language
import Concord.Proofs.Number.ReadBack

/-!
# The category of what is shown

A value is sorted by the number that it stands for, and so is the text that it
is shown as.  Both are the same number, or no number both: a finite number is
shown by the text that it is sorted by, and everything else by a text that
begins like a word and not like a number.  The two ways part only where a value
cannot be shown at all.
-/

namespace Concord

namespace ExtendedDecimal

/-! ## Texts that begin like a word -/

/-- A character that a word starts with, and no number. -/
def StartsWord (c : Char) : Prop :=
  IsVisible c ∧ c.toLower.isDigit = false ∧ c.toLower ∉ ['.', '+', '-']

instance decidableStartsWord (c : Char) : Decidable (StartsWord c) :=
  inferInstanceAs (Decidable (_ ∧ _ ∧ _))

/-- Characters that begin like a word, behind a minus sign or without one. -/
inductive BeginsWord : List Char -> Prop
  | plain {first : Char} (rest : List Char) (starts : StartsWord first) :
      BeginsWord (first :: rest)
  | negated {first : Char} (rest : List Char) (starts : StartsWord first) :
      BeginsWord ('-' :: first :: rest)

theorem BeginsWord.append
    {left : List Char}
    (begins : BeginsWord left)
    (right : List Char) :
    BeginsWord (left ++ right) := by
  cases begins with
  | plain rest starts => exact .plain (rest ++ right) starts
  | negated rest starts => exact .negated (rest ++ right) starts

/-- Visible characters in front are read as they stand, whatever follows them. -/
theorem startsWith_normalForm?
    {front rest normal : List Char}
    (nonempty : front ≠ [])
    (visible : ∀ c ∈ front, IsVisible c)
    (read : normalForm? (front ++ rest) = some normal) :
    front.map Char.toLower <+: normal := by
  obtain ⟨others, trimmed⟩ := Text.startsWith_trimBy nonempty
    (fun c member => Text.not_isBlank_of_visible (visible c member).1) rest
  rw [normalForm?, Text.trimBlanks, ← trimmed, List.filter_append, filter_of_visible visible,
    List.mapM_append, mapM_asciiForm?_of_visible visible] at read
  generalize (others.filter fun c => c ≠ '_').mapM asciiForm? = converted at read
  cases converted with
  | none => cases read
  | some ascii =>
      cases read
      exact ⟨ascii.map Char.toLower, List.map_append.symm⟩

/-- What begins like a word is not read as digits. -/
theorem readFinite_of_word
    {first : Char}
    (noDigit : first.isDigit = false)
    (noPoint : first ≠ '.')
    (negative : Bool)
    (rest : List Char) :
    readFinite negative (first :: rest) = none := by
  have noFraction : splitFraction (first :: rest) = ([], first :: rest) := by
    unfold splitFraction
    split
    · rename_i same
      cases same
      exact absurd rfl noPoint
    · rfl
  simp [readFinite, noDigit, noFraction, numeral?]

theorem finite?_readUnsigned_of_word
    {first : Char}
    (noDigit : first.isDigit = false)
    (noPoint : first ≠ '.')
    (negative : Bool)
    (rest : List Char) :
    (readUnsigned negative (first :: rest)).bind finite? = none := by
  unfold readUnsigned
  split
  · simp [finite?]
  · simp [finite?]
  · rw [readFinite_of_word noDigit noPoint]
    split <;> rfl

/-- What begins like a word is read as no finite number. -/
theorem finite?_ofChars?_of_beginsWord
    {cs : List Char}
    (begins : BeginsWord cs) :
    (ofChars? cs).bind finite? = none := by
  rw [ofChars?]
  cases read : normalForm? cs with
  | none => rfl
  | some normal =>
      cases begins with
      | @plain first rest starts =>
          obtain ⟨visible, noDigit, noMark⟩ := starts
          simp only [List.mem_cons, List.not_mem_nil, or_false, not_or] at noMark
          obtain ⟨tail, rfl⟩ := @startsWith_normalForm? [first] rest normal (by simp)
            (by simpa using visible) read
          rw [Option.bind_some, List.map_singleton, List.singleton_append,
            splitSign_of_ne noMark.2.2 noMark.2.1]
          exact finite?_readUnsigned_of_word noDigit noMark.1 false tail
      | @negated first rest starts =>
          obtain ⟨visible, noDigit, noMark⟩ := starts
          simp only [List.mem_cons, List.not_mem_nil, or_false, not_or] at noMark
          have minus : IsVisible '-' := by decide
          obtain ⟨tail, rfl⟩ := @startsWith_normalForm? ['-', first] rest normal (by simp)
            (by simpa using ⟨minus, visible⟩) read
          exact finite?_readUnsigned_of_word noDigit noMark.1 true tail

end ExtendedDecimal

open ExtendedDecimal (BeginsWord)

theorem beginsWord_of_head?
    {text : String}
    {first : Char}
    (head : text.toList.head? = some first)
    (starts : ExtendedDecimal.StartsWord first) :
    BeginsWord text.toList := by
  obtain ⟨rest, chars⟩ := List.head?_eq_some_iff.mp head
  rw [chars]
  exact .plain rest starts

theorem beginsWord_append
    {left : String}
    (begins : BeginsWord left.toList)
    (right : String) :
    BeginsWord (left ++ right).toList := by
  rw [String.toList_append]
  exact begins.append right.toList

/-- Texts that are put together begin like the first of them. -/
theorem beginsWord_intercalate
    {first : String}
    (begins : BeginsWord first.toList)
    (separator : String)
    (rest : List String) :
    BeginsWord (String.intercalate separator (first :: rest)).toList := by
  cases rest with
  | nil =>
      rw [String.intercalate_singleton]
      exact begins
  | cons second others =>
      rw [String.intercalate_cons_cons, String.append_assoc]
      exact beginsWord_append begins _

/-- A text between two marks begins with the first of them. -/
theorem beginsWord_between
    {mark : String}
    {first : Char}
    (head : mark.toList.head? = some first)
    (starts : ExtendedDecimal.StartsWord first)
    (text closing : String) :
    BeginsWord (mark ++ text ++ closing).toList :=
  beginsWord_append (beginsWord_append (beginsWord_of_head? head starts) text) closing

/-! ## Texts that are shown -/

theorem beginsWord_quotedBytes (bytes : List UInt8) :
    BeginsWord (Text.quotedBytes bytes).toList := by
  rw [Text.quotedBytes, String.toList_ofList]
  exact .plain _ (by decide)

theorem beginsWord_parenthesized (texts : List String) :
    BeginsWord (Value.parenthesized texts).toList := by
  unfold Value.parenthesized
  split <;> exact beginsWord_between rfl (by decide) _ _

theorem Term.beginsWord_display (term : Term) : BeginsWord term.display.toList := by
  have named : BeginsWord "term_type=".toList := beginsWord_of_head? rfl (by decide)
  cases term <;> exact beginsWord_intercalate (beginsWord_append named _) _ _

theorem Lexeme.beginsWord_display (lexeme : Lexeme) : BeginsWord lexeme.display.toList := by
  have named : BeginsWord "name=".toList := beginsWord_of_head? rfl (by decide)
  exact beginsWord_intercalate (beginsWord_append named _) _ _

theorem ExtendedDecimal.beginsWord_undefined (negative signaling : Bool) (payload : Nat) :
    BeginsWord (text (.undefined negative signaling payload)).toList := by
  rw [text]
  apply beginsWord_append
  cases negative <;> cases signaling
  · exact beginsWord_of_head? rfl (by decide)
  · exact beginsWord_of_head? rfl (by decide)
  · exact .negated _ (by decide)
  · exact .negated _ (by decide)

namespace Value

/-- A text stands for the finite number that is read from it, if one is. -/
theorem decimal?_text (text : String) :
    (Value.text text).decimal? = (ExtendedDecimal.ofText? text).bind ExtendedDecimal.finite? := by
  have numeral : (Value.text text).numeral? = some (Text.stripped text) := rfl
  rw [decimal?, numeral, Option.bind_some, ExtendedDecimal.ofText?_stripped]

/-- A value that is shown by the text that it is sorted by is the number that it shows. -/
theorem decimal?_shown_of_numeral?
    {value : Value}
    (numeral : value.numeral? = some value.shown) :
    (text value.shown).decimal? = value.decimal? := by
  rw [decimal?_text, decimal?, numeral, Option.bind_some]

/-- A value that stands for no number is shown as none if its text begins like a word. -/
theorem decimal?_shown_of_beginsWord
    {value : Value}
    (noNumber : value.decimal? = none)
    (begins : BeginsWord value.shown.toList) :
    (text value.shown).decimal? = value.decimal? := by
  rw [decimal?_text, noNumber, ExtendedDecimal.ofText?,
    ExtendedDecimal.finite?_ofChars?_of_beginsWord begins]

/-- A value stands for the number that it is shown as. -/
theorem decimal?_shown (value : Value) : (text value.shown).decimal? = value.decimal? := by
  cases value with
  | null => rfl
  | truth value => cases value <;> rfl
  | integer value => exact decimal?_shown_of_numeral? rfl
  | float value =>
      cases value with
      | undefined => rfl
      | infinite negative => cases negative <;> rfl
      | finite negative significand exponent => exact decimal?_shown_of_numeral? rfl
  | decimal value =>
      cases value with
      | finite value => exact decimal?_shown_of_numeral? rfl
      | infinite negative => cases negative <;> rfl
      | undefined negative signaling payload =>
          exact decimal?_shown_of_beginsWord rfl
            (ExtendedDecimal.beginsWord_undefined negative signaling payload)
  | text value => rfl
  | bytes value => exact decimal?_shown_of_beginsWord rfl (beginsWord_quotedBytes value)
  | list items => exact decimal?_shown_of_beginsWord rfl (beginsWord_between rfl (by decide) _ _)
  | tuple items => exact decimal?_shown_of_beginsWord rfl (beginsWord_parenthesized _)
  | map entries => exact decimal?_shown_of_beginsWord rfl (beginsWord_between rfl (by decide) _ _)
  | tag kind =>
      exact decimal?_shown_of_beginsWord (by cases kind <;> rfl)
        (beginsWord_append (beginsWord_of_head? rfl (by decide)) kind.capitals)
  | term value => exact decimal?_shown_of_beginsWord rfl value.beginsWord_display
  | lexeme value => exact decimal?_shown_of_beginsWord rfl value.beginsWord_display
  | foreign => rfl

/-- A value that is no number too long to be written itself, but holds one. -/
def HidesUnwritable (value : Value) : Prop :=
  value.isWritable = false ∧ ∀ n, value ≠ .integer n

theorem isUnwritableInteger_integer (n : Int) :
    (integer n).isUnwritableInteger = !(integer n).isWritable := by
  rw [isUnwritableInteger, isWritable]

/-- A value and the text that shows it have the same operands. -/
theorem operands_shown {value : Value} (writable : value.isWritable = true) :
    (text value.shown).operands = value.operands := by
  have taken : value.isUnwritableInteger = false := by
    cases value with
    | integer n => rw [isUnwritableInteger_integer, writable, Bool.not_true]
    | _ => rfl
  have takenText : (text value.shown).isUnwritableInteger = false := rfl
  rw [operands, operands, decimal?_shown, taken, takenText]

/-- What holds a number that is too long to be written is no number itself. -/
theorem operands_of_hidesUnwritable {value : Value} (hides : value.HidesUnwritable) :
    value.operands = .ok none := by
  obtain ⟨unwritable, noInteger⟩ := hides
  cases value with
  | integer n => exact absurd rfl (noInteger n)
  | list items | tuple items | map entries | term value => rfl
  | _ => cases unwritable

/-- A value can be written, or is a number too long to be, or hides one. -/
theorem writable_or_hidesUnwritable (value : Value) :
    value.isWritable = true ∨
      (∃ n, value = .integer n ∧ (integer n).isWritable = false) ∨ value.HidesUnwritable := by
  cases writable : value.isWritable with
  | true => exact .inl rfl
  | false =>
      right
      by_cases whole : ∃ n, value = .integer n
      · obtain ⟨n, rfl⟩ := whole
        exact .inl ⟨n, rfl, writable⟩
      · exact .inr ⟨writable, fun n same => whole ⟨n, same⟩⟩

end Value

open Value

variable {rule : Option PluralRule} {value : Value}

/-- A value that can be written has the category of the text that shows it. -/
theorem pluralCategory_of_shown (writable : value.isWritable = true) :
    pluralCategory rule (.text value.shown) = pluralCategory rule value := by
  rw [pluralCategory, pluralCategory, operands_shown writable]

/-- An integer that is too long to be written has no category. -/
theorem pluralCategory_of_unwritable_integer
    {n : Int}
    (unwritable : (integer n).isWritable = false) :
    pluralCategory rule (.integer n) = .error .unwritable := by
  have untaken : (integer n).isUnwritableInteger = true := by
    rw [isUnwritableInteger_integer, unwritable, Bool.not_false]
  rw [pluralCategory, operands, if_pos untaken]
  rfl

/-- What hides such an integer belongs to the category of everything else. -/
theorem pluralCategory_of_hidesUnwritable (hides : value.HidesUnwritable) :
    pluralCategory rule value = .ok .other := by
  rw [pluralCategory, operands_of_hidesUnwritable hides]
  rfl

/--
In every locale a value is of the category of the text that it is shown as, or
neither has a category and for the same reason, exactly if it does not hide a
number that is too long to be written.  A value that does so cannot be shown,
but is of category other like everything that is no number.
-/
theorem pluralCategory_shown (locale : Locale) (value : Value) :
    ((value.argumentText.bind fun shown =>
        pluralCategory (PluralRule.ofLocale? locale) (.text shown)) =
      pluralCategory (PluralRule.ofLocale? locale) value ↔ ¬ value.HidesUnwritable) ∧
    ((value.argumentText = .error .unwritable ∧
      pluralCategory (PluralRule.ofLocale? locale) value = .ok .other) ↔
        value.HidesUnwritable) := by
  rcases value.writable_or_hidesUnwritable with writable | ⟨n, rfl, unwritable⟩ | hides
  · have hidesNothing : ¬ value.HidesUnwritable := by
      rintro ⟨unwritable, -⟩
      rw [writable] at unwritable
      cases unwritable
    rw [argumentText_of_writable writable]
    dsimp only [Except.bind]
    rw [pluralCategory_of_shown writable]
    refine ⟨iff_of_true rfl hidesNothing, iff_of_false ?_ hidesNothing⟩
    rintro ⟨⟨⟩, -⟩
  · have hidesNothing : ¬ (integer n).HidesUnwritable := fun hides => hides.2 n rfl
    rw [argumentText_of_unwritable unwritable, pluralCategory_of_unwritable_integer unwritable]
    refine ⟨iff_of_true rfl hidesNothing, iff_of_false ?_ hidesNothing⟩
    rintro ⟨-, ⟨⟩⟩
  · rw [argumentText_of_unwritable hides.1, pluralCategory_of_hidesUnwritable hides]
    refine ⟨iff_of_false ?_ (not_not_intro hides), iff_of_true ⟨rfl, rfl⟩ hides⟩
    rintro ⟨⟩

/-- A list with a number, or a mapping with a term, that is too long is sorted but not shown. -/
theorem pluralCategory_of_unshown :
    (pluralCategory (PluralRule.ofLocale? (Locale.ofName "en"))
        (.list [.integer (Int.ofNat firstUnwritable)]) = .ok .other ∧
      (list [.integer (Int.ofNat firstUnwritable)]).argumentText = .error .unwritable) ∧
    (pluralCategory (PluralRule.ofLocale? (Locale.ofName "en"))
        (.map [(.text "k", .term (.counter (some (Int.ofNat firstUnwritable))))]) = .ok .other ∧
      (map [(.text "k", .term (.counter (some (Int.ofNat firstUnwritable))))]).argumentText =
        .error .unwritable) := by
  decide +kernel

end Concord
