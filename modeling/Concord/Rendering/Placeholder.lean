import Concord.Number.Error
import Concord.Value.Key
import Concord.Value.Printer

/-!
# Placeholders

A placeholder is a number in braces.  It stands for the argument at that
position; one without an argument stays as it is written.  Inserted text is
not searched again.
-/

namespace Concord

/-- A part of a text: a character of its own, or the digits of a placeholder. -/
inductive Piece
  | plain (c : Char)
  | slot (digits : List Char)
  deriving DecidableEq

namespace Piece

/-- The characters that a placeholder is written with. -/
def slotChars (digits : List Char) : List Char :=
  '\x7b' :: digits ++ ['\x7d']

/-- A brace that opens no placeholder, with the digits behind it. -/
def brokenSlot (digits : List Char) : List Piece :=
  (Piece.plain '\x7b') :: digits.map Piece.plain

mutual

/-- Split a text outside of braces into pieces. -/
def scan : List Char -> List Piece
  | [] => []
  | c :: rest => if c = '\x7b' then scanSlot [] rest else .plain c :: scan rest

/-- Split a text behind an opening brace and some digits, the last one first, into pieces. -/
def scanSlot (digits : List Char) : List Char -> List Piece
  | [] => brokenSlot digits.reverse
  | c :: rest =>
      if c.isDigit then scanSlot (c :: digits) rest
      else if c = '\x7d' ∧ digits ≠ [] then .slot digits.reverse :: scan rest
      else if c = '\x7b' then brokenSlot digits.reverse ++ scanSlot [] rest
      else brokenSlot digits.reverse ++ .plain c :: scan rest

end

/-- The characters that a piece is written with. -/
def chars : Piece -> List Char
  | .plain c => [c]
  | .slot digits => slotChars digits

theorem flatMap_chars_brokenSlot (digits : List Char) :
    (brokenSlot digits).flatMap chars = '\x7b' :: digits := by
  induction digits <;> simp_all [brokenSlot, chars]

/-- Splitting a text loses nothing. -/
theorem flatMap_chars_scan (cs : List Char) :
    (scan cs).flatMap chars = cs ∧
      ∀ digits, (scanSlot digits cs).flatMap chars = '\x7b' :: digits.reverse ++ cs := by
  induction cs with
  | nil => exact ⟨rfl, fun digits => by simp [scanSlot, flatMap_chars_brokenSlot]⟩
  | cons c rest inductionHypothesis =>
      obtain ⟨outside, inside⟩ := inductionHypothesis
      refine ⟨?_, fun digits => ?_⟩
      · unfold scan
        split
        · simp_all
        · simp [chars, outside]
      · unfold scanSlot
        split
        · simp [inside]
        · split
          · simp_all [chars, slotChars]
          · split
            · simp_all [flatMap_chars_brokenSlot]
            · simp [chars, outside, flatMap_chars_brokenSlot]

end Piece

/-- The value that is written for an argument: of a list or tuple only the first element. -/
def unwrapped : Value -> Value
  | .list items => items.head?.getD .null
  | .tuple items => items.head?.getD .null
  | value => value

/-- The characters that replace a placeholder. -/
def slotText (arguments : Value) (digits : List Char) : Except NumberError (List Char) := do
  checkDigitCount digits.length
  match arguments.entryAt? (Nat.ofDigitChars 10 digits 0) with
  | none => return Piece.slotChars digits
  | some value => return (← (unwrapped value).argumentText).toList

/-- The characters that replace a piece. -/
def pieceText (arguments : Value) : Piece -> Except NumberError (List Char)
  | .plain c => .ok [c]
  | .slot digits => slotText arguments digits

/-- The characters that replace pieces in order, up to the first error. -/
def piecesText (arguments : Value) : List Piece -> Except NumberError (List Char)
  | [] => .ok []
  | piece :: rest => do
      let first ← pieceText arguments piece
      let others ← piecesText arguments rest
      return first ++ others

/-- Arguments that replace every placeholder alike replace pieces alike. -/
theorem piecesText_congr
    {arguments other : Value}
    (sameSlots : ∀ digits, slotText other digits = slotText arguments digits)
    (pieces : List Piece) :
    piecesText other pieces = piecesText arguments pieces := by
  induction pieces with
  | nil => rfl
  | cons piece rest inductionHypothesis =>
      have samePiece : pieceText other piece = pieceText arguments piece := by
        cases piece with
        | plain c => rfl
        | slot digits => exact sameSlots digits
      rw [piecesText, piecesText, samePiece, inductionHypothesis]

/-- Replace the placeholders of a text; without any arguments the text stays as it is. -/
def fillPlaceholders (text : String) (arguments : Value) : Except NumberError String :=
  match arguments with
  | .null => .ok text
  | arguments => (piecesText arguments (Piece.scan text.toList)).map String.ofList

theorem fillPlaceholders_of_given
    {arguments : Value}
    (given : arguments ≠ .null)
    (text : String) :
    fillPlaceholders text arguments =
      (piecesText arguments (Piece.scan text.toList)).map String.ofList := by
  unfold fillPlaceholders
  split
  · contradiction
  · rfl

end Concord
