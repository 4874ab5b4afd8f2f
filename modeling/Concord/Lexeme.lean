import Concord.Table
import Concord.Term.Kind
import Concord.Term.Printer

/-!
# Lexemes

A lexeme is an entry of the dictionary: a table of inflected forms under form
keys, with the sound that the word starts with.  Nouns also carry the gender
and the counter word that other words agree with.
-/

namespace Concord

/-- What a lexeme is, with what only nouns have. -/
inductive LexemeClass
  | noun (gender counter : Option String)
  | modifier
  | other
  deriving DecidableEq

/-- An entry of the dictionary. -/
structure Lexeme where
  /-- The name that the entry gives itself. -/
  name : Option String
  /-- The inflected forms under their keys. -/
  forms : Table String String
  /-- The class of the sound that the word starts with. -/
  onset : Option String
  /-- What the entry is, with what only nouns have. -/
  wordClass : LexemeClass
  deriving DecidableEq

namespace Lexeme

/-- The inflected form under a form key. -/
def form? (lexeme : Lexeme) (key : Option String) : Option String :=
  key.bind lexeme.forms.get?

/-- The gender that modifiers agree with. -/
def gender? (lexeme : Lexeme) : Option String :=
  match lexeme.wordClass with
  | .noun gender _ => gender
  | _ => none

/-- The counter word of its own. -/
def counter? (lexeme : Lexeme) : Option String :=
  match lexeme.wordClass with
  | .noun _ counter => counter
  | _ => none

/-- The class name that a lexeme is written with. -/
def className (lexeme : Lexeme) : String :=
  match lexeme.wordClass with
  | .noun .. => "Noun"
  | .modifier => "Modifier"
  | .other => "GrammaticalPart"

/-- The inflected forms, each with its key. -/
def formLiterals (forms : Table String String) : List String :=
  forms.map fun pair => Text.quoted pair.1 ++ ": " ++ Text.quoted pair.2

/-- The fields of a lexeme, each with its name. -/
def fieldTexts (lexeme : Lexeme) : List String :=
  ["name=" ++ textLiteral? lexeme.name,
    "forms=\x7b" ++ commaSeparated (formLiterals lexeme.forms) ++ "\x7d",
    "starts_with=" ++ textLiteral? lexeme.onset] ++
  match lexeme.wordClass with
  | .noun gender counter =>
      ["gender=" ++ textLiteral? gender, "counter=" ++ textLiteral? counter]
  | _ => []

/-- A lexeme inside another value. -/
def literal (lexeme : Lexeme) : String :=
  lexeme.className ++ "(" ++ commaSeparated lexeme.fieldTexts ++ ")"

/-- A lexeme shown by itself. -/
def display (lexeme : Lexeme) : String :=
  String.intercalate " " lexeme.fieldTexts

end Lexeme
end Concord
