/-!
# Kinds of terms

A label refers to six kinds of terms, each written as one letter.  The parts
of a dictionary are filed under the same letters.
-/

namespace Concord

/-- The kinds of terms a label can hold. -/
inductive TermKind
  | noun
  | adjective
  | article
  | gender
  | plural
  | counter
  deriving DecidableEq

namespace TermKind

/-- Every kind, in the order of their definition. -/
def all : List TermKind :=
  [.noun, .adjective, .article, .gender, .plural, .counter]

/-- The letter that stands for a kind. -/
def letter : TermKind -> String
  | .noun => "n"
  | .adjective => "a"
  | .article => "d"
  | .gender => "g"
  | .plural => "p"
  | .counter => "c"

/-- The kind that a letter stands for. -/
def ofLetter? (text : String) : Option TermKind :=
  all.find? fun kind => kind.letter = text

/-- The name of a kind in capitals. -/
def capitals : TermKind -> String
  | .noun => "NOUN"
  | .adjective => "ADJECTIVE"
  | .article => "ARTICLE"
  | .gender => "GENDER"
  | .plural => "PLURAL"
  | .counter => "COUNTER"

/-- A kind written for display. -/
def display (kind : TermKind) : String :=
  "TermType." ++ kind.capitals

/-- A kind written inside a container, its letter included. -/
def literal (kind : TermKind) : String :=
  "<" ++ kind.display ++ ": '" ++ kind.letter ++ "'>"

/-- Whether the keys of the kind's table are looked up without regard to letter case. -/
def ignoresCase : TermKind -> Bool
  | .noun | .adjective | .article => true
  | .gender | .plural | .counter => false

@[simp] theorem ofLetter?_letter (kind : TermKind) : ofLetter? kind.letter = some kind := by
  cases kind <;> decide

theorem letter_of_ofLetter?
    {text : String}
    {kind : TermKind}
    (found : ofLetter? text = some kind) :
    kind.letter = text := by
  simpa using List.find?_some found

end TermKind

/-- The two kinds of words that agree with a noun. -/
inductive ModifierKind
  | adjective
  | article
  deriving DecidableEq

/-- A kind of modifier as a kind of term. -/
def ModifierKind.toTermKind : ModifierKind -> TermKind
  | .adjective => .adjective
  | .article => .article

end Concord
