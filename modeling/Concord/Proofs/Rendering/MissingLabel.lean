import Concord.Proofs.Rendering.Failure
import Concord.Proofs.Rendering.Substitution

/-!
# The text for missing labels

A label that is missing or empty renders as one fixed text, whose placeholders
are filled like those of any other.  It comes out as it is for all arguments
exactly if it holds no placeholder; otherwise that depends on whether what the
arguments put into its placeholders gives the same text again.
-/

namespace Concord

/-- A text in which a placeholder is written somewhere. -/
def HoldsSlot (text : List Char) : Prop :=
  ∃ digits, Piece.IsNumeral digits ∧ Piece.slotChars digits <:+: text

/-- What the arguments put into the placeholders of a text gives the same text again. -/
def Value.Restores (arguments : Value) (text : List Char) : Prop :=
  arguments = .null ∨
    (∀ piece ∈ Piece.scan text, piece.IsShort) ∧
      ∃ parts, List.Forall₂ arguments.Fills (Piece.scan text) parts ∧ parts.flatten = text

/-! ## Texts without placeholders -/

namespace Piece

/-- Pieces without any placeholder are the characters of their text. -/
theorem map_plain_flatMap_chars
    {pieces : List Piece}
    (noSlot : ∀ digits, slot digits ∉ pieces) :
    (pieces.flatMap chars).map plain = pieces := by
  induction pieces with
  | nil => rfl
  | cons piece rest inductionHypothesis =>
      cases piece with
      | slot digits => exact absurd List.mem_cons_self (noSlot digits)
      | plain c =>
          have noSlotLater : ∀ digits, slot digits ∉ rest := fun digits member =>
            noSlot digits (List.mem_cons_of_mem _ member)
          rw [List.flatMap_cons, chars, List.singleton_append, List.map_cons,
            inductionHypothesis noSlotLater]

end Piece

/-- Scanning finds a placeholder exactly where one is written. -/
theorem holdsSlot_iff (text : List Char) :
    HoldsSlot text ↔ ∃ digits, Piece.slot digits ∈ Piece.scan text := by
  have cut := Piece.isCut_scan text
  constructor
  · rintro ⟨digits, numeral, inside⟩
    by_contra noSlot
    apply cut.complete digits numeral
    have plain := Piece.map_plain_flatMap_chars (not_exists.mp noSlot)
    rw [cut.whole] at plain
    rw [← plain]
    exact inside.map Piece.plain
  · rintro ⟨digits, member⟩
    exact ⟨digits, cut.numerals digits member, cut.slotChars_inside member⟩

/-! ## Fillings that change nothing -/

variable {arguments : Value}

theorem fillPlaceholders_eq_self_iff {text : String} :
    fillPlaceholders text arguments = .ok text ↔ arguments.Restores text.toList := by
  unfold Value.Restores
  by_cases given : arguments = .null
  · rw [given]
    exact iff_of_true rfl (.inl rfl)
  · rw [or_iff_right given]
    constructor
    · intro same
      have clear := (fillPlaceholders_ok_iff text arguments).mp ⟨text, same⟩ given
      have short : ∀ piece ∈ Piece.scan text.toList, piece.IsShort := by
        intro piece member
        cases piece with
        | plain c => trivial
        | slot digits => exact Nat.le_of_not_lt fun long => clear digits member (.inl long)
      refine ⟨short, ?_⟩
      rw [fillPlaceholders_of_given given] at same
      cases replaced : piecesText arguments (Piece.scan text.toList) with
      | error error =>
          rw [replaced] at same
          cases same
      | ok filled =>
          obtain ⟨parts, fills, rfl⟩ := (piecesText_eq_ok_iff short filled).mp replaced
          rw [replaced] at same
          refine ⟨parts, fills, ?_⟩
          rw [← Except.ok.inj same, String.toList_ofList]
    · rintro ⟨short, parts, fills, same⟩
      rw [fillPlaceholders_of_given given,
        (piecesText_eq_ok_iff short text.toList).mpr ⟨parts, fills, same.symm⟩, Except.map,
        String.ofList_toList]

/-- Arguments without an entry for any of its placeholders leave a text as it is. -/
theorem Value.restores_of_no_entries
    {text : List Char}
    (short : HasShortSlots text)
    (missing : ∀ digits, Piece.slot digits ∈ Piece.scan text ->
      ∀ value, ¬ arguments.HasAt (Nat.ofDigitChars 10 digits 0) value) :
    arguments.Restores text := by
  have whole := (Piece.isCut_scan text).whole
  rw [List.flatMap_def] at whole
  exact .inr ⟨short.isShort, _, fills_chars_of_no_entries missing, whole⟩

/-- A text without placeholders is left as it is by all arguments. -/
theorem Value.restores_of_not_holdsSlot
    {text : List Char}
    (noSlot : ¬ HoldsSlot text)
    (arguments : Value) :
    arguments.Restores text := by
  apply Value.restores_of_no_entries
  · intro digits numeral inside
    exact absurd ⟨digits, numeral, inside⟩ noSlot
  · intro digits member
    exact absurd ((holdsSlot_iff text).mpr ⟨digits, member⟩) noSlot

/-! ## Fillings that remove a placeholder -/

/-- Arguments that put nothing into the placeholders of numbers up to the given one. -/
def Value.blanks (last : Nat) : Value :=
  .list (List.replicate (last + 1) (.text ""))

theorem Value.hasAt_blanks
    {last number : Nat}
    {value : Value}
    (has : (blanks last).HasAt number value) :
    value = .text "" := by
  cases has with
  | listed found => exact List.eq_of_mem_replicate (List.mem_of_getElem? found)

theorem Value.blanks_hasAt (last : Nat) : (blanks last).HasAt last (.text "") := by
  refine .listed ?_
  rw [List.getElem?_replicate, if_pos (Nat.lt_succ_self last)]

section

variable {last : Nat}

/-- Blanks make no piece longer. -/
theorem Value.Fills.length_le_of_blanks
    {piece : Piece}
    {part : List Char}
    (fills : (blanks last).Fills piece part) :
    part.length ≤ piece.chars.length := by
  cases fills with
  | plain c | untouched missing => exact Nat.le_refl _
  | entry has written =>
      rw [hasAt_blanks has] at written
      cases written
      exact Nat.zero_le _

/-- Blanks make the placeholder of their last number shorter. -/
theorem Value.Fills.length_lt_of_blanks
    {digits part : List Char}
    (fills : (blanks (Nat.ofDigitChars 10 digits 0)).Fills (.slot digits) part) :
    part.length < (Piece.slot digits).chars.length := by
  cases fills with
  | untouched missing => exact absurd (blanks_hasAt _) (missing _)
  | entry has written =>
      rw [hasAt_blanks has] at written
      cases written
      exact Nat.succ_pos _

theorem length_flatten_le_of_blanks
    {pieces : List Piece}
    {parts : List (List Char)}
    (fills : List.Forall₂ (Value.blanks last).Fills pieces parts) :
    parts.flatten.length ≤ (pieces.flatMap Piece.chars).length := by
  induction fills with
  | nil => exact Nat.le_refl _
  | cons first _ inductionHypothesis =>
      rw [List.flatten_cons, List.flatMap_cons, List.length_append, List.length_append]
      exact Nat.add_le_add first.length_le_of_blanks inductionHypothesis

/-- Blanks make every text with the placeholder of their last number shorter. -/
theorem length_flatten_lt_of_blanks
    {digits : List Char}
    {pieces : List Piece}
    {parts : List (List Char)}
    (fills : List.Forall₂ (Value.blanks (Nat.ofDigitChars 10 digits 0)).Fills pieces parts)
    (member : Piece.slot digits ∈ pieces) :
    parts.flatten.length < (pieces.flatMap Piece.chars).length := by
  induction fills with
  | nil => cases member
  | cons first later inductionHypothesis =>
      rw [List.flatten_cons, List.flatMap_cons, List.length_append, List.length_append]
      rcases List.mem_cons.mp member with rfl | inRest
      · exact Nat.add_lt_add_of_lt_of_le first.length_lt_of_blanks
          (length_flatten_le_of_blanks later)
      · exact Nat.add_lt_add_of_le_of_lt first.length_le_of_blanks (inductionHypothesis inRest)

end

/-- A text with a placeholder is not left as it is by all arguments. -/
theorem Value.exists_not_restores
    {text : List Char}
    (holds : HoldsSlot text) :
    ∃ arguments : Value, ¬ arguments.Restores text := by
  obtain ⟨digits, member⟩ := (holdsSlot_iff text).mp holds
  refine ⟨blanks (Nat.ofDigitChars 10 digits 0), ?_⟩
  rintro (absent | ⟨-, parts, fills, same⟩)
  · cases absent
  · have shorter := length_flatten_lt_of_blanks fills member
    rw [(Piece.isCut_scan text).whole, same] at shorter
    exact Nat.lt_irrefl _ shorter

/-! ## Missing labels -/

/-- The label that a value stands for is unknown or empty. -/
def Catalog.Lacks (catalog : Catalog) (id : Value) : Prop :=
  ∀ name, id.written = .ok name -> ∀ body, catalog.label? name = some body -> body.isEmpty = true

namespace Localizer

section

variable {localizer : Localizer} {id : Value} (lacks : localizer.catalog.Lacks id)
include lacks

/-- A missing label has no usable body, unless its name cannot be written. -/
theorem usableLabel_of_lacks
    {found : Option Body}
    (usable : localizer.usableLabel id = .ok found) :
    found = none := by
  unfold usableLabel Catalog.labelUnder at usable
  split at usable
  case isTrue => exact (Except.ok.inj usable).symm
  case isFalse =>
    cases named : id.written with
    | error error =>
        rw [named] at usable
        cases usable
    | ok name =>
        rw [named] at usable
        rw [← Except.ok.inj usable, Option.filter_eq_none_iff]
        intro body stored
        simp [lacks name named body stored]

/-- A missing label renders as the text for missing labels, filled like any other. -/
theorem text_of_lacks_eq_ok_iff (nouns arguments : Value) (text : String) :
    (localizer.text id nouns arguments).outcome = .ok text ↔
      (localizer.catalog.labels = [] ∨ id.isWritable = true) ∧
        fillPlaceholders localizer.missing arguments = .ok text := by
  rw [← usableLabel_ok_iff, Localizer.text, unfilledText]
  cases usable : localizer.usableLabel id with
  | error error => exact iff_of_false (by rintro ⟨⟩) (by rintro ⟨⟨_, ⟨⟩⟩, _⟩)
  | ok found =>
      rw [usableLabel_of_lacks lacks usable, and_iff_right ⟨none, rfl⟩]
      rfl

/-- The text for missing labels itself comes out exactly if filling it changes nothing. -/
theorem text_of_lacks_eq_missing_iff (nouns arguments : Value) :
    (localizer.text id nouns arguments).outcome = .ok localizer.missing ↔
      (localizer.catalog.labels = [] ∨ id.isWritable = true) ∧
        arguments.Restores localizer.missing.toList := by
  rw [text_of_lacks_eq_ok_iff lacks, fillPlaceholders_eq_self_iff]

/--
A missing label renders as the text for missing labels itself exactly if the
name of the label can be written and filling the text changes nothing.  With
all arguments it does so exactly if the text holds no placeholder.
-/
theorem missing_text_verbatim_iff :
    (∀ nouns arguments,
      (localizer.text id nouns arguments).outcome = .ok localizer.missing ↔
        (localizer.catalog.labels = [] ∨ id.isWritable = true) ∧
          arguments.Restores localizer.missing.toList) ∧
    ((∀ nouns arguments,
      (localizer.text id nouns arguments).outcome = .ok localizer.missing) ↔
        (localizer.catalog.labels = [] ∨ id.isWritable = true) ∧
          ¬ HoldsSlot localizer.missing.toList) := by
  have verbatim := text_of_lacks_eq_missing_iff lacks
  refine ⟨verbatim, ?_, ?_⟩
  · intro always
    refine ⟨((verbatim .null .null).mp (always .null .null)).1, ?_⟩
    intro holds
    obtain ⟨arguments, changes⟩ := Value.exists_not_restores holds
    exact changes ((verbatim .null arguments).mp (always .null arguments)).2
  · rintro ⟨named, noSlot⟩ nouns arguments
    exact (verbatim nouns arguments).mpr ⟨named, Value.restores_of_not_holdsSlot noSlot arguments⟩

end

/-- An English label and an empty one, with a text for missing labels. -/
def greeting (missing : String) : Localizer :=
  ⟨⟨[], [("hello", .text "Hello"), ("void", .text "")]⟩, Grammar.ofLocale {} none, missing⟩

/-- An empty label renders as the text for missing labels, whose braces hold no number. -/
theorem missing_text_verbatim_iff_braces :
    (greeting "\x7b\x7d").catalog.Lacks (.text "void") ∧
      ((greeting "\x7b\x7d").text (.text "void") .null (.list [.text "x"])).outcome =
        .ok "\x7b\x7d" := by
  have lacks : (greeting "\x7b\x7d").catalog.Lacks (.text "void") := by
    intro name named body stored
    cases named
    cases stored
    rfl
  have noSlot : ¬ HoldsSlot (greeting "\x7b\x7d").missing.toList := by
    have scanned : Piece.scan (greeting "\x7b\x7d").missing.toList =
        [.plain '\x7b', .plain '\x7d'] := by
      decide
    rw [holdsSlot_iff, scanned]
    simp
  obtain ⟨-, always⟩ := missing_text_verbatim_iff lacks
  exact ⟨lacks, always.mpr ⟨.inr rfl, noSlot⟩ .null (.list [.text "x"])⟩

/-- A placeholder in the text for missing labels is filled for an unknown label. -/
theorem missing_text_filled :
    (greeting "\x7b0\x7d").catalog.label? "nope" = none ∧
      ((greeting "\x7b0\x7d").text (.text "nope") .null (.list [.text "x"])).outcome =
        .ok "x" := by
  decide +kernel

end Localizer
end Concord
