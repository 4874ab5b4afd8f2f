import Concord.Lexeme
import Concord.Number.Error

/-!
# Requests for agreement

While a body is rendered, its modifiers ask for the form that agrees with
their noun.  A rendering records every such request in order, also when it
ends in an error.
-/

namespace Concord

/-- A question for the form of a modifier, with the answer. -/
structure AgreementRequest where
  /-- Whether the modifier is an adjective or an article. -/
  kind : ModifierKind
  /-- The form key that the label gives to the modifier. -/
  form : Option String
  /-- The form key of the noun that it points at. -/
  nounForm : Option String
  /-- The noun itself, if it is known. -/
  noun : Option Lexeme
  /-- The word after the modifier, if it is known. -/
  next : Option Lexeme
  /-- The form key that the grammar answers with. -/
  answer : Option String
  deriving DecidableEq

/-- A result, or an error, with the requests made on the way. -/
structure Rendering (α : Type) where
  /-- The requests, in the order in which they were made. -/
  requests : List AgreementRequest
  /-- The result or the error. -/
  outcome : Except NumberError α

namespace Rendering

variable {α β : Type}

/-- A result without any request. -/
def pure (result : α) : Rendering α :=
  ⟨[], .ok result⟩

/-- A rendering that ends in an error. -/
def fail (error : NumberError) : Rendering α :=
  ⟨[], .error error⟩

/-- A result or an error without any request. -/
def lift (outcome : Except NumberError α) : Rendering α :=
  ⟨[], outcome⟩

/-- Continue with a result; an error skips what follows. -/
def bind (first : Rendering α) (next : α -> Rendering β) : Rendering β :=
  match first.outcome with
  | .ok result => ⟨first.requests ++ (next result).requests, (next result).outcome⟩
  | .error error => ⟨first.requests, .error error⟩

/-- Record a request. -/
def ask (request : AgreementRequest) (result : α) : Rendering α :=
  ⟨[request], .ok result⟩

/-- Two texts, one after the other. -/
def append (first second : Rendering String) : Rendering String :=
  first.bind fun left => second.bind fun right => pure (left ++ right)

@[simp] theorem pure_bind (result : α) (next : α -> Rendering β) :
    (pure result).bind next = next result := rfl

@[simp] theorem fail_bind (error : NumberError) (next : α -> Rendering β) :
    (fail error : Rendering α).bind next = fail error := rfl

@[simp] theorem lift_ok (result : α) : lift (.ok result) = pure result := rfl

@[simp] theorem lift_error (error : NumberError) :
    lift (.error error : Except _ α) = fail error := rfl

@[simp] theorem bind_pure (first : Rendering α) : first.bind pure = first := by
  obtain ⟨requests, outcome⟩ := first
  cases outcome <;> simp [bind, pure]

theorem bind_assoc {γ : Type}
    (first : Rendering α) (next : α -> Rendering β) (last : β -> Rendering γ) :
    (first.bind next).bind last = first.bind fun result => (next result).bind last := by
  obtain ⟨requests, outcome⟩ := first
  cases outcome with
  | error error => rfl
  | ok result =>
      simp only [bind]
      cases (next result).outcome <;> simp [List.append_assoc]

@[simp] theorem empty_append (text : Rendering String) : (pure "").append text = text := by
  simp [append]

@[simp] theorem append_empty (text : Rendering String) : text.append (pure "") = text := by
  simp [append]

theorem append_assoc (first second third : Rendering String) :
    (first.append second).append third = first.append (second.append third) := by
  simp [append, bind_assoc, String.append_assoc]

end Rendering
end Concord
