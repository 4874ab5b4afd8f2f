import Concord.Agreement.Family

/-!
# Renaming a noun

A label asks for a modifier in the form that goes with one noun.  When the noun
is given another name, the form key is rebuilt for the new noun.  A family
keeps only the stem of a key and makes the rest anew from the noun and the next
word.  As rebuilding leaves the stem as it was, a key that is rebuilt for one
noun after another comes out as if it had been rebuilt for the last one only.
-/

namespace Concord

@[simp] theorem toList_keyStart (count : Nat) (key : String) :
    (keyStart count key).toList = key.toList.take count :=
  String.toList_ofList

@[simp] theorem toList_keyRest (count : Nat) (key : String) :
    (keyRest count key).toList = key.toList.drop count :=
  String.toList_ofList

namespace AgreementFamily

/-! ## Parts of a key -/

/-- The number of a key is the same after the rest is made anew. -/
theorem keyStart_afterNumber
    {key : String}
    (long : 2 ≤ key.length)
    (ending : String) :
    keyStart 2 (afterNumber key ending) = keyStart 2 key := by
  have full : 2 ≤ (key.toList.take 2).length := by
    rw [List.length_take, String.length_toList]
    omega
  rw [← String.toList_inj, toList_keyStart, afterNumber, String.toList_append, toList_keyStart,
    List.take_append_of_le_length full, List.take_take, Nat.min_self]

/-- A key whose first character is replaced by a text; an empty key has none. -/
def replaceFirst (first key : String) : String :=
  if key = "" then key else first ++ keyRest 1 key

/-- Of two replacements the second counts if the first put in a single character. -/
theorem replaceFirst_replaceFirst
    {first : String}
    (single : first.length = 1)
    (second key : String) :
    replaceFirst second (replaceFirst first key) = replaceFirst second key := by
  by_cases empty : key = ""
  · rw [replaceFirst.eq_def first, if_pos empty]
  · have nonempty : first ++ keyRest 1 key ≠ "" := by
      intro none
      have length := congrArg String.length none
      rw [String.length_append, single, String.length_empty] at length
      omega
    have rest : keyRest 1 (first ++ keyRest 1 key) = keyRest 1 key := by
      rw [← String.toList_inj, toList_keyRest, String.toList_append]
      exact List.drop_left' (String.length_toList.trans single)
    rw [replaceFirst, replaceFirst, replaceFirst, if_neg empty, if_neg nonempty, if_neg empty,
      rest]

/-- Whether a key asks for a plural form. -/
def startsPlural (key : String) : Bool :=
  key.toList.head? = some '1'

/-- What a family keeps of a form key, with a mark where the gender stood in front. -/
def stem (family : AgreementFamily) (kind : ModifierKind) (form : Option String) :
    Option String :=
  match family with
  | .plain | .isolating => form
  | .english =>
      match kind with
      | .adjective => form
      | .article => form.map (keyStart 2)
  | .romance | .french => form.map (keyStart 2)
  | .german | .genderFirst => form.map (replaceFirst "?")
  | .korean => none
  | .malayic => form.filter startsPlural

/-! ## What a family expects -/

/-- Whether the forms of a family carry the gender of the noun. -/
def asksGender : AgreementFamily -> Bool
  | .german | .genderFirst | .romance | .french => true
  | _ => false

/-- Whether the gender stands in front of the keys of a family. -/
def startsWithGender : AgreementFamily -> Bool
  | .german | .genderFirst => true
  | _ => false

/-- Whether a family keeps the number that takes the first two characters of a key. -/
def startsWithNumber (family : AgreementFamily) (kind : ModifierKind) : Bool :=
  match family with
  | .romance | .french => true
  | .english => kind = .article
  | _ => false

/-- A form key that is long enough to hold a number, if the family keeps one. -/
def HasNumber (family : AgreementFamily) (kind : ModifierKind) (form : Option String) : Prop :=
  family.startsWithNumber kind = true -> ∀ key, form = some key -> 2 ≤ key.length

/-- A noun whose gender, if it has one, is a single character where it stands in front. -/
def HasShortGender (family : AgreementFamily) (noun : Option Lexeme) : Prop :=
  family.startsWithGender = true -> ∀ gender, genderOf noun = some gender -> gender.length = 1

/-- A noun with a gender, if the family asks for one. -/
def HasGender (family : AgreementFamily) (noun : Option Lexeme) : Prop :=
  family.asksGender = true -> ∃ gender, genderOf noun = some gender

variable
  {family : AgreementFamily} {kind : ModifierKind} {form : Option String}
  {noun next : Option Lexeme}

/-! ## Rebuilt keys -/

section

variable {gender : String} (known : genderOf noun = some gender)

include known

/-- A Romance key is its number with the gender behind it. -/
theorem agreeingForm_romance_of_gender (form : Option String) :
    romance.agreeingForm kind form noun next = form.map fun key => afterNumber key gender := by
  cases form <;> simp only [agreeingForm, known, Option.map_none, Option.map_some]

/-- A French key also has the sound that the next word starts with behind the gender. -/
theorem agreeingForm_french_of_gender (form : Option String) :
    french.agreeingForm kind form noun next =
      form.map fun key => afterNumber key (gender ++ "-" ++ onsetOf next) := by
  cases form <;> simp only [agreeingForm, known, Option.map_none, Option.map_some]

/-- With a gender in front, a key gives up its own first character for it. -/
theorem genderFirstForm_of_gender (form : Option String) :
    genderFirstForm form noun = form.map (replaceFirst gender) := by
  cases form with
  | none => rfl
  | some key =>
      rw [Option.map_some, replaceFirst]
      simp only [genderFirstForm, known]
      split <;> rfl

end

/-- A Malayic key is kept if it asks for a plural, and made from the next word otherwise. -/
theorem agreeingForm_malayic (form : Option String) :
    malayic.agreeingForm kind form noun next =
      some ((malayic.stem kind form).getD ("0-" ++ onsetOf next)) := by
  cases form with
  | none => rfl
  | some key =>
      rw [stem, agreeingForm, Option.filter_some, startsPlural]
      by_cases plural : key.toList.head? = some '1'
      · rw [if_pos plural, if_pos (decide_eq_true plural), Option.getD_some]
      · rw [if_neg plural, if_neg (by simpa using plural), Option.getD_none]

theorem map_afterNumber (ending : String) (form : Option String) :
    (form.map fun key => afterNumber key ending) = (form.map (keyStart 2)).map (· ++ ending) := by
  rw [Option.map_map]
  rfl

/-- A key whose end is made anew keeps its number. -/
theorem map_keyStart_afterNumber
    (long : ∀ key, form = some key -> 2 ≤ key.length)
    (ending : String) :
    (form.map fun key => afterNumber key ending).map (keyStart 2) = form.map (keyStart 2) := by
  cases form with
  | none => rfl
  | some key => exact congrArg some (keyStart_afterNumber (long key rfl) ending)

/-- Of two texts put in front the second counts if the first was a single character. -/
theorem map_replaceFirst_replaceFirst
    {first : String}
    (single : first.length = 1)
    (second : String)
    (form : Option String) :
    (form.map (replaceFirst first)).map (replaceFirst second) =
      form.map (replaceFirst second) := by
  rw [Option.map_map]
  congr 1
  funext key
  exact replaceFirst_replaceFirst single second key

/-- A family reads no more of a key than its stem. -/
theorem agreeingForm_of_stem
    (kind : ModifierKind)
    (gendered : family.HasGender noun)
    (next : Option Lexeme) :
    ∃ complete : Option String -> Option String, ∀ form,
      family.agreeingForm kind form noun next = complete (family.stem kind form) := by
  cases family with
  | plain | isolating => exact ⟨id, fun _ => rfl⟩
  | english =>
      cases kind with
      | adjective => exact ⟨id, fun _ => rfl⟩
      | article => exact ⟨_, map_afterNumber (onsetOf next)⟩
  | romance =>
      obtain ⟨gender, known⟩ := gendered rfl
      refine ⟨Option.map (· ++ gender), fun form => ?_⟩
      rw [agreeingForm_romance_of_gender known, map_afterNumber, stem]
  | french =>
      obtain ⟨gender, known⟩ := gendered rfl
      refine ⟨Option.map (· ++ (gender ++ "-" ++ onsetOf next)), fun form => ?_⟩
      rw [agreeingForm_french_of_gender known, map_afterNumber, stem]
  | german | genderFirst =>
      obtain ⟨gender, known⟩ := gendered rfl
      refine ⟨Option.map (replaceFirst gender), fun form => ?_⟩
      rw [agreeingForm, genderFirstForm_of_gender known, stem,
        map_replaceFirst_replaceFirst (by rfl : "?".length = 1)]
  | korean => exact ⟨fun _ => some (onsetOf next), fun _ => rfl⟩
  | malayic =>
      exact ⟨fun stem => some (stem.getD ("0-" ++ onsetOf next)), agreeingForm_malayic⟩

/-- A gender of one character in front changes nothing behind the first character. -/
theorem stem_genderFirstForm
    (short : ∀ gender, genderOf noun = some gender -> gender.length = 1)
    (form : Option String) :
    (genderFirstForm form noun).map (replaceFirst "?") = form.map (replaceFirst "?") := by
  cases known : genderOf noun with
  | none => cases form <;> simp only [genderFirstForm, known]
  | some gender =>
      rw [genderFirstForm_of_gender known, map_replaceFirst_replaceFirst (short gender known)]

theorem stem_malayic (form : Option String) :
    malayic.stem kind (malayic.agreeingForm kind form noun next) = malayic.stem kind form := by
  rw [agreeingForm_malayic]
  cases kept : malayic.stem kind form with
  | none =>
      have singular : startsPlural ("0-" ++ onsetOf next) = false := by
        rw [startsPlural, String.toList_append]
        rfl
      rw [Option.getD_none, stem, Option.filter_some, singular]
      rfl
  | some key =>
      have plural : startsPlural key = true := Option.filter_eq_some_iff.mp kept |>.2
      rw [Option.getD_some, stem, Option.filter_some, plural]
      rfl

/-- Rebuilding a key leaves its stem as it was. -/
theorem stem_agreeingForm
    (numbered : family.HasNumber kind form)
    (short : family.HasShortGender noun)
    (next : Option Lexeme) :
    family.stem kind (family.agreeingForm kind form noun next) = family.stem kind form := by
  cases family with
  | plain | isolating | korean => rfl
  | english =>
      cases kind with
      | adjective => rfl
      | article => exact map_keyStart_afterNumber (numbered rfl) (onsetOf next)
  | romance =>
      cases known : genderOf noun with
      | none => cases form <;> simp only [agreeingForm, known]
      | some gender =>
          rw [agreeingForm_romance_of_gender known]
          exact map_keyStart_afterNumber (numbered rfl) gender
  | french =>
      cases known : genderOf noun with
      | none => cases form <;> simp only [agreeingForm, known]
      | some gender =>
          rw [agreeingForm_french_of_gender known]
          exact map_keyStart_afterNumber (numbered rfl) (gender ++ "-" ++ onsetOf next)
  | german | genderFirst => exact stem_genderFirstForm (short rfl) form
  | malayic => exact stem_malayic form

/-! ## Renaming once, twice and many times -/

/-- Whether a key can hold a number is seen from its stem. -/
theorem HasNumber.of_stem
    {other : Option String}
    (numbered : family.HasNumber kind form)
    (same : family.stem kind other = family.stem kind form) :
    family.HasNumber kind other := by
  intro starts key given
  have stemmed : other.map (keyStart 2) = form.map (keyStart 2) := by
    cases family with
    | romance | french => exact same
    | english =>
        cases kind with
        | adjective => cases starts
        | article => exact same
    | plain | german | genderFirst | isolating | korean | malayic => cases starts
  rw [given, Option.map_some] at stemmed
  obtain ⟨asked, given, sameNumber⟩ := Option.map_eq_some_iff.mp stemmed.symm
  have long := numbered starts asked given
  have lengths := congrArg (fun number : String => number.toList.length) sameNumber
  simp only [toList_keyStart, List.length_take, String.length_toList] at lengths
  omega

/-- A noun that takes the place of another, and the word that follows the modifier then. -/
structure Replacement where
  /-- The noun that takes the place, if it is known. -/
  noun : Option Lexeme
  /-- The word that follows the modifier then, if it is known. -/
  next : Option Lexeme

/-- A form key that is rebuilt for one noun after another. -/
def renamed (family : AgreementFamily) (kind : ModifierKind) (form : Option String)
    (replacements : List Replacement) : Option String :=
  replacements.foldl
    (fun key replacement => family.agreeingForm kind key replacement.noun replacement.next) form

/-- Any number of renamings leaves the stem of a key as it was. -/
theorem stem_renamed
    {replacements : List Replacement}
    (numbered : family.HasNumber kind form)
    (short : ∀ replacement ∈ replacements, family.HasShortGender replacement.noun) :
    family.stem kind (family.renamed kind form replacements) = family.stem kind form := by
  induction replacements generalizing form with
  | nil => rfl
  | cons first rest inductionHypothesis =>
      have kept := stem_agreeingForm numbered (short first List.mem_cons_self) first.next
      rw [renamed, List.foldl_cons, ← renamed, inductionHypothesis (numbered.of_stem kept), kept]
      intro replacement later
      exact short replacement (List.mem_cons_of_mem first later)

/-- A key that is rebuilt for one noun after another is the key for the last of them. -/
theorem renamed_append_singleton
    {earlier : List Replacement}
    {last : Replacement}
    (numbered : family.HasNumber kind form)
    (short : ∀ replacement ∈ earlier, family.HasShortGender replacement.noun)
    (gendered : family.HasGender last.noun) :
    family.renamed kind form (earlier ++ [last]) =
      family.agreeingForm kind form last.noun last.next := by
  obtain ⟨complete, read⟩ := agreeingForm_of_stem kind gendered last.next
  rw [renamed, List.foldl_append, List.foldl_cons, List.foldl_nil, ← renamed, read, read,
    stem_renamed numbered short]

/--
A form key that is rebuilt for one noun and then for another is the key for the
second.  The first noun is forgotten if its gender can be taken off again, and
the second must have a gender where the family needs one.
-/
theorem agreeingForm_forgets_first_noun
    {kind : TermKind}
    {first second : Option Lexeme}
    (numbered : family.HasNumber (.ofTermKind kind) form)
    (short : family.HasShortGender first)
    (gendered : family.HasGender second)
    (firstNext secondNext : Option Lexeme) :
    family.agreeingForm (.ofTermKind kind)
        (family.agreeingForm (.ofTermKind kind) form first firstNext) second secondNext =
      family.agreeingForm (.ofTermKind kind) form second secondNext := by
  obtain ⟨complete, read⟩ := agreeingForm_of_stem (.ofTermKind kind) gendered secondNext
  rw [read, read, stem_agreeingForm numbered short firstNext]

/-- A school, feminine in French and German. -/
def school : Lexeme :=
  ⟨some "école", [("s", "école")], some "v", .noun (some "f") none⟩

/-- A car, neuter in German. -/
def car : Lexeme :=
  ⟨some "Auto", [("0", "Auto")], some "v", .noun (some "n") none⟩

/-- A friend, masculine in French. -/
def friend : Lexeme :=
  ⟨some "ami", [("s", "ami")], some "v", .noun (some "m") none⟩

/-- Articles written for a masculine noun, then for the school, and then for friend or car. -/
theorem agreeingForm_forgets_school :
    french.agreeingForm .article
        (french.agreeingForm .article (some "0-m-c") (some school) none)
        (some friend) (some friend) = some "0-m-v" ∧
      german.agreeingForm .article
        (german.agreeingForm .article (some "m-0-a-n") (some school) none)
        (some car) (some car) = some "n-0-a-n" := by
  have numbered : french.HasNumber (.ofTermKind .article) (some "0-m-c") := by
    rintro - key ⟨⟩
    decide
  have numberless : german.HasNumber (.ofTermKind .article) (some "m-0-a-n") := by
    rintro ⟨⟩
  have notInFront : french.HasShortGender (some school) := by
    rintro ⟨⟩
  have short : german.HasShortGender (some school) := by
    rintro - gender ⟨⟩
    decide
  have masculine : french.HasGender (some friend) := fun _ => ⟨"m", rfl⟩
  have neuter : german.HasGender (some car) := fun _ => ⟨"n", rfl⟩
  constructor
  · refine (agreeingForm_forgets_first_noun numbered notInFront masculine none _).trans ?_
    decide
  · refine (agreeingForm_forgets_first_noun numberless short neuter none _).trans ?_
    decide

end AgreementFamily
end Concord
