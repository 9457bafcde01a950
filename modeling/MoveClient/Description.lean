import MoveClient.Value

/-!
Descriptions of objects.

A description names the parts of an object: a record has the name of a type and named fields,
everything else is a value or a list. It is what is shown of an object, whatever the object's wire
form is.
-/

namespace MoveClient

/-- What an object consists of. -/
inductive Description where
  | value (v : Value)
  | list (items : List Description)
  | record (type : String) (fields : List (String × Description))
deriving Repr

namespace Description

instance : Inhabited Description := ⟨.value .null⟩

/-- Nothing. -/
def absent : Description := .value .null

/-- A number. -/
def number (n : Nat) : Description := .value (.int n)

/-- A text. -/
def text (s : String) : Description := .value (.text s)

/-- Octets. -/
def bytes (octets : Bytes) : Description := .value (.bytes octets)

/-- An address. -/
def address (a : Address) : Description := .value (.address a)

/-- A type. -/
def type (tag : TypeTag) : Description := .value (.type tag)

/-- A part that may be missing. -/
def option {α : Type} (describe : α → Description) : Option α → Description
  | none => absent
  | some part => describe part

/-- Parts of one kind. -/
def each {α : Type} (describe : α → Description) (parts : List α) : Description :=
  .list (parts.map describe)

end Description

end MoveClient
