import MoveClient.Address
import MoveClient.IntegerType

/-!
Types of the ledger's virtual machine.

A type tag is a primitive, a vector, a structure with its type arguments, a reference, or a type
parameter of a generic function. References and type parameters occur in interfaces only; the
other tags also have a wire form, whose variant numbers `variant` gives.
-/

namespace MoveClient

/-- The types without parts. -/
inductive PrimitiveType where
  | bool
  | integer (type : IntegerType)
  | address
  | signer
deriving DecidableEq, Repr

namespace PrimitiveType

/-- The name of the type in text. -/
def name : PrimitiveType → String
  | .bool => "bool"
  | .integer type => type.name
  | .address => "address"
  | .signer => "signer"

/-- All primitive types. -/
def all : List PrimitiveType :=
  [.bool, .address, .signer] ++ IntegerType.all.map .integer

/-- The primitive type of the given name. -/
def ofName? (name : String) : Option PrimitiveType :=
  all.find? fun type => type.name == name

/-- The number of the type on the wire. -/
def variant : PrimitiveType → Nat
  | .bool => 0
  | .integer ⟨false, .w8⟩ => 1
  | .integer ⟨false, .w64⟩ => 2
  | .integer ⟨false, .w128⟩ => 3
  | .address => 4
  | .signer => 5
  | .integer ⟨false, .w16⟩ => 8
  | .integer ⟨false, .w32⟩ => 9
  | .integer ⟨false, .w256⟩ => 10
  | .integer ⟨true, .w8⟩ => 11
  | .integer ⟨true, .w16⟩ => 12
  | .integer ⟨true, .w32⟩ => 13
  | .integer ⟨true, .w64⟩ => 14
  | .integer ⟨true, .w128⟩ => 15
  | .integer ⟨true, .w256⟩ => 16

/-- The primitive type of the given number. -/
def ofVariant? (variant : Nat) : Option PrimitiveType :=
  all.find? fun type => type.variant == variant

theorem ofVariant?_variant (type : PrimitiveType) : ofVariant? type.variant = some type := by
  rcases type with _ | ⟨_ | _, _ | _ | _ | _ | _ | _⟩ | _ | _ <;> rfl

end PrimitiveType

/-- A type, as interfaces and transactions write it. The place of a type parameter is negative only
in a type that was made by hand. -/
inductive TypeTag where
  | primitive (type : PrimitiveType)
  | vector (element : TypeTag)
  | struct (address : Address) (module name : String) (typeArguments : List TypeTag)
  | generic (index : Int)
  | reference (target : TypeTag)
deriving Repr

instance : Inhabited TypeTag := ⟨.primitive .bool⟩

/-- A structure type by itself: where its module lives, its name and its type arguments. -/
structure StructTag where
  address : Address
  module : String
  name : String
  typeArguments : List TypeTag
deriving Repr

namespace TypeTag

def bool : TypeTag := .primitive .bool
def address : TypeTag := .primitive .address
def signer : TypeTag := .primitive .signer
def integer (type : IntegerType) : TypeTag := .primitive (.integer type)
def u8 : TypeTag := integer .u8

mutual

/-- Equality of types is decidable. -/
def decideEq : (left right : TypeTag) → Decidable (left = right)
  | .primitive type, .primitive type' =>
      if h : type = type' then isTrue (by rw [h]) else isFalse (by simpa using h)
  | .vector element, .vector element' =>
      match decideEq element element' with
      | isTrue h => isTrue (by rw [h])
      | isFalse h => isFalse (by simpa using h)
  | .struct address module name arguments, .struct address' module' name' arguments' =>
      match decideEqAll arguments arguments' with
      | isTrue same =>
          if h : address = address' ∧ module = module' ∧ name = name' then
            isTrue (by rw [h.1, h.2.1, h.2.2, same])
          else isFalse (by
            simp only [struct.injEq, not_and]
            intro first second third
            exact absurd ⟨first, second, third⟩ h)
      | isFalse different => isFalse (by
          simp only [struct.injEq, not_and]
          intro _ _ _
          exact different)
  | .generic index, .generic index' =>
      if h : index = index' then isTrue (by rw [h]) else isFalse (by simpa using h)
  | .reference target, .reference target' =>
      match decideEq target target' with
      | isTrue h => isTrue (by rw [h])
      | isFalse h => isFalse (by simpa using h)
  | .primitive _, .vector _ | .primitive _, .struct .. | .primitive _, .generic _
  | .primitive _, .reference _ | .vector _, .primitive _ | .vector _, .struct ..
  | .vector _, .generic _ | .vector _, .reference _ | .struct .., .primitive _
  | .struct .., .vector _ | .struct .., .generic _ | .struct .., .reference _
  | .generic _, .primitive _ | .generic _, .vector _ | .generic _, .struct ..
  | .generic _, .reference _ | .reference _, .primitive _ | .reference _, .vector _
  | .reference _, .struct .. | .reference _, .generic _ => isFalse (by simp)

/-- Equality of lists of types is decidable. -/
def decideEqAll : (left right : List TypeTag) → Decidable (left = right)
  | [], [] => isTrue rfl
  | [], _ :: _ | _ :: _, [] => isFalse (by simp)
  | first :: rest, first' :: rest' =>
      match decideEq first first', decideEqAll rest rest' with
      | isTrue same, isTrue sameRest => isTrue (by rw [same, sameRest])
      | isFalse different, _ => isFalse (by simp [different])
      | _, isFalse different => isFalse (by simp [different])

end

instance : DecidableEq TypeTag := decideEq

/-- The number of the type; type parameters and references have one, but no wire form. -/
def variant : TypeTag → Nat
  | .primitive type => type.variant
  | .vector _ => 6
  | .struct .. => 7
  | .generic _ => 254
  | .reference _ => 255

/-- Whether the type is `signer`, or a reference to it, at any depth. -/
def isSigner : TypeTag → Bool
  | .primitive type => type == .signer
  | .reference target => target.isSigner
  | _ => false

mutual

/-- The printed form. -/
def text : TypeTag → String
  | .primitive type => type.name
  | .vector element => "vector<" ++ element.text ++ ">"
  | .struct address module name arguments =>
      address.text ++ "::" ++ module ++ "::" ++ name ++ textOfArguments arguments
  | .generic index => "T" ++ toString index
  | .reference target => "&" ++ target.text

/-- The type arguments between angle brackets, nothing if there are none. -/
def textOfArguments : List TypeTag → String
  | [] => ""
  | first :: rest => "<" ++ first.text ++ textOfRest rest

/-- The type arguments that follow the first, and the closing bracket. -/
def textOfRest : List TypeTag → String
  | [] => ">"
  | next :: rest => ", " ++ next.text ++ textOfRest rest

end

/-- The type that a type parameter is bound to: the one at its place, or, if the place is negative,
the one at that place from the end. -/
def bound? (bindings : List TypeTag) : (index : Int) → Option TypeTag
  | .ofNat place => bindings[place]?
  | .negSucc place => bindings.reverse[place]?

theorem bound?_nil (index : Int) : bound? [] index = none := by
  cases index <;> rfl

theorem bound?_ofNat_eq_none_iff
    {bindings : List TypeTag}
    {place : Nat} :
    bound? bindings (.ofNat place) = none ↔ bindings.length ≤ place :=
  List.getElem?_eq_none_iff

theorem bound?_negSucc_eq_none_iff
    {bindings : List TypeTag}
    {place : Nat} :
    bound? bindings (.negSucc place) = none ↔ bindings.length ≤ place := by
  rw [← List.length_reverse]
  exact List.getElem?_eq_none_iff

theorem mem_of_bound?
    {bindings : List TypeTag}
    {index : Int}
    {bound : TypeTag}
    (isBound : bound? bindings index = some bound) :
    bound ∈ bindings := by
  cases index with
  | ofNat place => exact List.mem_of_getElem? isBound
  | negSucc place => exact List.mem_reverse.mp (List.mem_of_getElem? isBound)

mutual

/-- The number of nodes of the type. -/
def size : TypeTag → Nat
  | .primitive _ | .generic _ => 1
  | .vector element => element.size + 1
  | .struct _ _ _ arguments => sizeOfAll arguments + 1
  | .reference target => target.size + 1

/-- The number of nodes of several types together. -/
def sizeOfAll : List TypeTag → Nat
  | [] => 0
  | first :: rest => first.size + sizeOfAll rest

end

end TypeTag

deriving instance DecidableEq for StructTag

namespace StructTag

/-- The structure type as a type. -/
def toTypeTag (tag : StructTag) : TypeTag :=
  .struct tag.address tag.module tag.name tag.typeArguments

/-- The printed form. -/
def text (tag : StructTag) : String :=
  tag.toTypeTag.text

/-- Whether the structure is the framework's `module::name`, whatever its type arguments. -/
def isFramework (tag : StructTag) (module name : String) : Bool :=
  tag.address == Address.one && tag.module == module && tag.name == name

/-- Whether the structure is the framework's string. -/
def isString (tag : StructTag) : Bool :=
  tag.isFramework "string" "String"

/-- Whether the structure is the framework's option, with the one type argument it needs. -/
def isOption (tag : StructTag) : Bool :=
  tag.isFramework "option" "Option" && tag.typeArguments.length == 1

/-- Whether the structure is the framework's object handle. -/
def isObject (tag : StructTag) : Bool :=
  tag.isFramework "object" "Object"

end StructTag

/-- The structure type in a type, if it is one. -/
def TypeTag.struct? : TypeTag → Option StructTag
  | .struct address module name arguments => some ⟨address, module, name, arguments⟩
  | _ => none

end MoveClient
