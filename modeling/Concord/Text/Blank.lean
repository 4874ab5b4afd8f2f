import Concord.Text.Span

/-!
# Blanks

The characters that separate words without a mark of their own, and texts
with the blanks at both ends taken off.
-/

namespace Concord
namespace Text

/-- The characters with the property of being white space. -/
def whitespaceSpans : List Span := [
    ⟨0x9, 0xD⟩, ⟨0x20, 0x20⟩, ⟨0x85, 0x85⟩, ⟨0xA0, 0xA0⟩, ⟨0x1680, 0x1680⟩,
    ⟨0x2000, 0x200A⟩, ⟨0x2028, 0x2029⟩, ⟨0x202F, 0x202F⟩, ⟨0x205F, 0x205F⟩,
    ⟨0x3000, 0x3000⟩
  ]

/-- The control characters that separate units of information. -/
def unitSeparators : Span :=
  ⟨0x1C, 0x1F⟩

/-- Whether a character is white space. -/
def isWhitespace (c : Char) : Bool :=
  inSpans whitespaceSpans c

/-- Whether a character is blank: white space or a separator of units. -/
def isBlank (c : Char) : Bool :=
  isWhitespace c || unitSeparators.contains c.toNat

/-- Drop the characters at both ends that pass a test. -/
def trimBy (test : Char -> Bool) (cs : List Char) : List Char :=
  ((cs.dropWhile test).reverse.dropWhile test).reverse

/-- Drop the blanks at both ends of a character list. -/
def trimBlanks (cs : List Char) : List Char :=
  trimBy isBlank cs

/-- A text without the blanks at its ends. -/
def stripped (text : String) : String :=
  String.ofList (trimBlanks text.toList)

@[simp] theorem trimBlanks_nil : trimBlanks [] = [] := rfl

@[simp] theorem toList_stripped (text : String) :
    (stripped text).toList = trimBlanks text.toList := by
  simp [stripped]

end Text
end Concord
