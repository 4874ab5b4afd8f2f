import Concord.Number.Error
import Concord.Value.Basic

/-!
# Keys and positions

Two keys of a mapping are the same when they are numbers of the same size,
texts with the same characters, equal terms, or tuples with the same elements.
What can change, or holds something that can, is no key.  A position of a
collection is an index of a list or tuple, or a key of a mapping, either as a
number or as its digits.
-/

namespace Concord

/-- Why a value is no key. -/
inductive KeyFault
  | changeable (typeName : String)
  | signaling
  deriving DecidableEq

/-- The wording of a fault. -/
def KeyFault.message : KeyFault -> String
  | .changeable typeName => "unhashable type: " ++ Text.quoted typeName
  | .signaling => "Cannot hash a signaling NaN value"

namespace Value

/-- Whether two values other than tuples are the same key. -/
def sameAtom (left right : Value) : Bool :=
  match left.number?, right.number? with
  | some leftNumber, some rightNumber => leftNumber.sameSize rightNumber
  | some _, none => false
  | none, some _ => false
  | none, none =>
      match left.text?, right.text? with
      | some leftText, some rightText => leftText == rightText
      | some _, none => false
      | none, some _ => false
      | none, none =>
          match left, right with
          | .null, .null => true
          | .bytes leftBytes, .bytes rightBytes => leftBytes == rightBytes
          | .term leftTerm, .term rightTerm => leftTerm.sameFlat rightTerm
          | .foreign, .foreign => true
          | _, _ => false

mutual

/-- Whether two values are the same key. -/
def sameKey : Value -> Value -> Bool
  | .tuple left, .tuple right => sameKeys left right
  | left, right => sameAtom left right

/-- Whether two lists hold the same keys in order. -/
def sameKeys : List Value -> List Value -> Bool
  | [], [] => true
  | left :: leftRest, right :: rightRest => sameKey left right && sameKeys leftRest rightRest
  | _, _ => false

end

/-- The value under a key. -/
def find? (entries : List (Value × Value)) (key : Value) : Option Value :=
  (entries.find? fun entry => sameKey key entry.1).map Prod.snd

/-- Write an entry; the same key keeps its place and takes the new value. -/
def insertEntry : List (Value × Value) -> Value × Value -> List (Value × Value)
  | [], entry => [entry]
  | (key, kept) :: rest, entry =>
      if sameKey key entry.1 then
        (key, entry.2) :: rest
      else
        (key, kept) :: insertEntry rest entry

/-- A mapping of entries in order, later ones replacing the values of earlier ones. -/
def ofEntries (entries : List (Value × Value)) : Value :=
  .map (entries.foldl insertEntry [])

/-- What makes a term changeable: the list of its fallback, or else the mapping of its variants. -/
def bodyFault (fallback : Body) : KeyFault :=
  match fallback with
  | .segments _ => .changeable "list"
  | _ => .changeable "dict"

mutual

/-- Why a value is no key, if it is none. -/
def keyFault? : Value -> Option KeyFault
  | .list _ => some (.changeable "list")
  | .map _ => some (.changeable "dict")
  | .lexeme _ => some (.changeable "dict")
  | .term (.gender _ fallback _) => some (bodyFault fallback)
  | .term (.plural _ fallback _) => some (bodyFault fallback)
  | .decimal (.undefined _ true _) => some .signaling
  | .tuple items => firstKeyFault? items
  | _ => none

/-- Why the first value of a list that is no key is none. -/
def firstKeyFault? : List Value -> Option KeyFault
  | [] => none
  | item :: rest => (keyFault? item).or (firstKeyFault? rest)

end

/-- The entry of a mapping under a number, or else under the digits of the number. -/
def numbered? (entries : List (Value × Value)) (position : Int) : Option Value :=
  (find? entries (.integer position)).or (find? entries (.text (Int.repr position)))

/-- What a collection holds at a position, an absent value included. -/
def entryAt? (values : Value) (position : Int) : Option Value :=
  match values with
  | .map entries => numbered? entries position
  | .list items | .tuple items => if position < 0 then none else items[position.toNat]?
  | _ => none

/-- Whether the digits of a number must be written to look it up and are too many for that. -/
def needsLongDigits (values : Value) (position : Int) : Bool :=
  match values with
  | .map entries => (find? entries (.integer position)).isNone && !isWritable position
  | _ => false

/-- What a collection holds at a position; nothing there is the absent value. -/
def entryAt (values : Value) (position : Option Int) : Except NumberError Value :=
  match position with
  | none => .ok .null
  | some index =>
      if values.needsLongDigits index then
        .error .unwritable
      else
        .ok ((values.entryAt? index).getD .null)

end Value
end Concord
