import Concord.Lexeme

/-!
# Families of agreement

Languages differ in how an adjective or article takes its form from the noun
and from the word that follows.  A form key is rebuilt from the key that the
label asks for, the gender of the noun and the onset of the next word.
-/

namespace Concord

/-- The ways in which modifiers agree. -/
inductive AgreementFamily
  | plain
  | english
  | german
  | romance
  | french
  | genderFirst
  | isolating
  | korean
  | malayic
  deriving DecidableEq

namespace AgreementFamily

/-- Every family, in the order of their definition. -/
def all : List AgreementFamily :=
  [.plain, .english, .german, .romance, .french, .genderFirst, .isolating, .korean, .malayic]

/-- The name that the grammar of a family is shown with. -/
def title : AgreementFamily -> String
  | .plain => "DefaultAgreementRules"
  | .english => "EnglishAgreementRules"
  | .german => "GermanAgreementRules"
  | .romance => "RomanceAgreementRules"
  | .french => "FrenchAgreementRules"
  | .genderFirst => "GenderPrefixedAgreementRules"
  | .isolating => "IsolatingAgreementRules"
  | .korean => "KoreanAgreementRules"
  | .malayic => "MalayoPolynesianAgreementRules"

/-- The family whose grammar is shown with a name. -/
def ofTitle? (title : String) : Option AgreementFamily :=
  all.find? fun family => family.title = title

/-- Whether the family writes without letter case. -/
def lacksCase : AgreementFamily -> Bool
  | .isolating | .korean => true
  | _ => false

/-- Whether nouns keep their capital inside a sentence. -/
def capitalizesNouns : AgreementFamily -> Bool
  | .german => true
  | _ => false

/-- Whether the family looks up the counter word of its locale by itself. -/
def countsByLocale : AgreementFamily -> Bool
  | .isolating | .korean | .malayic => true
  | _ => false

end AgreementFamily

/-- How a word of a kind agrees: articles in a way of their own, all others like adjectives. -/
def ModifierKind.ofTermKind : TermKind -> ModifierKind
  | .article => .article
  | _ => .adjective

/-- The onset of a word; a word without one starts with a consonant. -/
def onsetOf (next : Option Lexeme) : String :=
  match next.bind Lexeme.onset with
  | none => "c"
  | some onset => if onset = "" then "c" else onset

/-- The gender of a noun, unless it is missing or empty. -/
def genderOf (noun : Option Lexeme) : Option String :=
  (noun.bind Lexeme.gender?).filter fun gender => gender ≠ ""

/-- The first characters of a form key. -/
def keyStart (count : Nat) (form : String) : String :=
  String.ofList (form.toList.take count)

/-- A form key without its first characters. -/
def keyRest (count : Nat) (form : String) : String :=
  String.ofList (form.toList.drop count)

namespace AgreementFamily

/-- A key of number, then what the noun or the next word decides. -/
def afterNumber (form : String) (ending : String) : String :=
  keyStart 2 form ++ ending

/-- Let the gender of the noun replace the first character; an empty key stays empty. -/
def genderFirstForm (form : Option String) (noun : Option Lexeme) : Option String :=
  match form, genderOf noun with
  | some key, some gender => if key = "" then some key else some (gender ++ keyRest 1 key)
  | form, _ => form

/-- The form key under which a modifier is looked up. -/
def agreeingForm (family : AgreementFamily) (kind : ModifierKind) (form : Option String)
    (noun next : Option Lexeme) : Option String :=
  match family with
  | .plain | .isolating => form
  | .english =>
      match kind with
      | .adjective => form
      | .article => form.map fun key => afterNumber key (onsetOf next)
  | .german | .genderFirst => genderFirstForm form noun
  | .romance =>
      match form, genderOf noun with
      | some key, some gender => some (afterNumber key gender)
      | form, _ => form
  | .french =>
      match form, genderOf noun with
      | some key, some gender => some (afterNumber key (gender ++ "-" ++ onsetOf next))
      | form, _ => form
  | .korean => some (onsetOf next)
  | .malayic =>
      match form with
      | some key =>
          if key.toList.head? = some '1' then some key else some ("0-" ++ onsetOf next)
      | none => some ("0-" ++ onsetOf next)

end AgreementFamily
end Concord
