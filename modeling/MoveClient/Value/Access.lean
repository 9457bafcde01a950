import MoveClient.Error
import MoveClient.Number.Written
import MoveClient.Value.Arithmetic

/-!
Taking apart what a node answers.

A node's answer is a value whose parts have to be there and have to be of the right kind. A part
that is missing and a value that has no parts are different errors.
-/

namespace MoveClient.Value

/-- The value under a name that has to be there. -/
def required (name : String) (answer : Value) : Except Error Value :=
  match answer with
  | .map _ =>
      match answer.field? name with
      | some value => .ok value
      | none => .error .missingField
  | _ => .error .wrongKind

/-- The value under a name, or another one if it is not there. -/
def optional (name : String) (answer : Value) (otherwise : Value) : Except Error Value :=
  match answer with
  | .map _ => .ok ((answer.field? name).getD otherwise)
  | _ => .error .wrongKind

/-- The first item. -/
def firstItem : Value → Except Error Value
  | .list (item :: _) | .tuple (item :: _) => .ok item
  | .list [] | .tuple [] => .error .emptyAnswer
  | .text s =>
      match s.toList with
      | c :: _ => .ok (.text (String.singleton c))
      | [] => .error .emptyAnswer
  | .brokenText broken =>
      match textsOf broken.codePoints with
      | first :: _ => .ok first
      | [] => .error .emptyAnswer
  | .map _ => .error .missingField
  | _ => .error .wrongKind

/-- How many items, entries or code points there are. -/
def count : Value → Except Error Nat
  | .list items | .tuple items => .ok items.length
  | .map entries => .ok entries.length
  | .text s => .ok s.length
  | .brokenText broken => .ok broken.codePoints.length
  | _ => .error .wrongKind

/-- The floating-point number that a number or a written number stands for. -/
def toFloat : Value → Except Error Binary64
  | .text s =>
      match Binary64.read? s.toList with
      | some number => .ok number
      | none => .error .invalidNumber
  | .brokenText _ => .error .invalidNumber
  | value => value.real

end MoveClient.Value
