import Concord.Text.Printable

/-!
# Quoted text

A quoted text stands between single quotes, or between double quotes when it
holds a single quote and no double one.  The quote, the backslash and the
characters without a printed form are escaped.
-/

namespace Concord
namespace Text

/-- A number in lowercase hexadecimal, filled up with zeros to a width. -/
def hexadecimal (width : Nat) (value : Nat) : List Char :=
  let digits := Nat.toDigits 16 value
  List.replicate (width - digits.length) '0' ++ digits

/-- The quote for a text with these characters. -/
def quoteFor (cs : List Char) : Char :=
  if '\'' ∈ cs ∧ '"' ∉ cs then '"' else '\''

/-- The escape of a code point by its number, as short as its size allows. -/
def escapeCode (code : Nat) : List Char :=
  if code ≤ 0xFF then
    '\\' :: 'x' :: hexadecimal 2 code
  else if code ≤ 0xFFFF then
    '\\' :: 'u' :: hexadecimal 4 code
  else
    '\\' :: 'U' :: hexadecimal 8 code

/-- One character inside quotes. -/
def escapeChar (quote : Char) (c : Char) : List Char :=
  if c = quote ∨ c = '\\' then ['\\', c]
  else if c = '\t' then ['\\', 't']
  else if c = '\n' then ['\\', 'n']
  else if c = '\r' then ['\\', 'r']
  else if isPrintable c then [c]
  else escapeCode c.toNat

/-- One byte inside quotes; only visible ASCII characters stand for themselves. -/
def escapeByte (quote : Char) (byte : UInt8) : List Char :=
  if byte.toNat < 0x7F then
    escapeChar quote (Char.ofNat byte.toNat)
  else
    escapeCode byte.toNat

/-- Put quotes around an escaped text. -/
def enquote (quote : Char) (cs : List Char) : List Char :=
  quote :: cs ++ [quote]

/-- A text in quotes. -/
def quoted (text : String) : String :=
  let cs := text.toList
  let quote := quoteFor cs
  String.ofList (enquote quote (cs.flatMap (escapeChar quote)))

/-- A byte string in quotes, marked by a leading letter. -/
def quotedBytes (bytes : List UInt8) : String :=
  let quote := quoteFor (bytes.map fun byte => Char.ofNat byte.toNat)
  String.ofList ('b' :: enquote quote (bytes.flatMap (escapeByte quote)))

end Text
end Concord
