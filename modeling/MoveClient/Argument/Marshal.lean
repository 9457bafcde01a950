import MoveClient.Argument.Coercion
import MoveClient.TypeTag.Codec

/-!
Encoding arguments by the types of a function's interface.

The type says how a value is read and written: integers, truth values and addresses may be given
as text, vectors as lists or tuples, vectors of octets also as byte strings or text, the
framework's strings as text, its options as a value or nothing, its objects as addresses. A
reference stands for its target, and a type parameter for the type it is bound to.

References, bound type parameters and options pass the same value on to another type. There are
no more such steps than the type and the bindings have nodes, unless the bindings lead in a
circle; a circle is a failure of its own.
-/

namespace MoveClient

/-- The failure at a type parameter that is not bound, of `given` that are. Too low a place from
the end is not foreseen, and fails as a missing item does. -/
def unbound (index : Int) (given : Nat) : Error :=
  match index with
  | .ofNat place => (Error.range (.unboundTypeParameter place given)).stated
  | .negSucc _ => .missingItem

/-- The bytes of text given for a vector of octets: hexadecimal after `0x`, else its UTF-8. -/
def octetsOfText (s : String) : Except Error Bytes :=
  match s.toList with
  | '0' :: 'x' :: digits =>
      match Bytes.ofHexDigits digits with
      | some octets => .ok octets
      | none => .error (.parse (.invalidHexArgument s))
  | _ => .ok (Emission.textOctets s)

/-- Text with a half of a character has no bytes: it is no hexadecimal after `0x`, and has no
UTF-8. -/
def octetsOfBroken (text : BrokenText) : Except Error Bytes :=
  match text.front with
  | '0' :: 'x' :: _ => .error (.parse (.brokenHexArgument text))
  | _ => .error .halfCharacter

namespace Value

/-- Encodes a list of items by one type, each by the function given for it. -/
def marshalItems (items : List (TypeTag → Except Error Bytes)) (element : TypeTag) :
    Except Error Bytes := do
  let count ← (Emission.length items.length).result
  let encoded ← items.mapM fun item => item element
  .ok (count ++ encoded.flatten)

/-- Encodes a value as a vector; `items` encodes its items if it is a list or a tuple. -/
def marshalVector (items : Option (List (TypeTag → Except Error Bytes))) (element : TypeTag)
    (value : Value) : Except Error Bytes :=
  let asList : Except Error Bytes :=
    match items with
    | some items => marshalItems items element
    | none => .error (Error.parse (.notList element value.kindName)).stated
  match value with
  | .null => .error (Error.parse (.nullVector element)).stated
  | .bytes octets | .buffer octets =>
      if element = .u8 then (Emission.bytes octets).result else asList
  | .text s =>
      if element = .u8 then do
        let octets ← octetsOfText s
        (Emission.bytes octets).result
      else asList
  | .brokenText broken =>
      if element = .u8 then do
        let octets ← octetsOfBroken broken
        (Emission.bytes octets).result
      else asList
  | _ => asList

/-- Encodes a value as the framework's string; `tag` names that in failures. -/
def marshalText (tag : TypeTag) : Value → Except Error Bytes
  | .text s => (Emission.text s).result
  | .brokenText _ => .error .halfCharacter
  | value => .error (Error.parse (.notText tag value.kindName)).stated

/-- Encodes a value by a type, following references, bound type parameters and options for at
most `steps` steps. -/
def marshalFor (bindings : List TypeTag) (items : Option (List (TypeTag → Except Error Bytes)))
    (value : Value) : (steps : Nat) → TypeTag → Except Error Bytes
  | 0, _ => .error .endlessType
  | steps + 1, tag =>
      match tag with
      | .primitive (.integer width) => do
          let number ← value.toInteger tag.text
          (Emission.integer width number).result
      | .primitive .bool => do
          let b ← value.toBool
          (Emission.bool b).result
      | .primitive .address => do
          let named ← value.toAddress
          named.write.result
      | .primitive .signer => .error (.unsupported .signerArgument)
      | .reference target => marshalFor bindings items value steps target
      | .generic index =>
          match TypeTag.bound? bindings index with
          | some bound => marshalFor bindings items value steps bound
          | none => .error (unbound index bindings.length)
      | .vector element => marshalVector items element value
      | .struct owner module name arguments =>
          let struct : StructTag := ⟨owner, module, name, arguments⟩
          if struct.isString then value.marshalText tag
          else if struct.isOption then
            match value, arguments with
            | .null, _ => .ok [0]
            | _, element :: _ => (marshalFor bindings items value steps element).map (1 :: ·)
            | _, [] => .error (Error.unsupported (.argumentType tag)).stated
          else if struct.isObject then do
            let named ← value.toAddress
            named.write.result
          else .error (Error.unsupported (.argumentType tag)).stated

mutual

/-- Encodes a value by a type with at most `steps` steps for each value inside it. -/
def marshalWithin (bindings : List TypeTag) (steps : Nat) : Value → TypeTag → Except Error Bytes
  | .list items => marshalFor bindings (some (marshalEach bindings steps items)) (.list items) steps
  | .tuple items => marshalFor bindings (some (marshalEach bindings steps items)) (.tuple items) steps
  | value => marshalFor bindings none value steps

/-- The encoders of the items of a list. -/
def marshalEach (bindings : List TypeTag) (steps : Nat) :
    List Value → List (TypeTag → Except Error Bytes)
  | [] => []
  | item :: rest => marshalWithin bindings steps item :: marshalEach bindings steps rest

end

/-- Encodes a value as an argument of the type; `bindings` are the types that the type parameters
stand for. -/
def marshal (tag : TypeTag) (value : Value) (bindings : List TypeTag) : Except Error Bytes :=
  marshalWithin bindings (tag.size + TypeTag.sizeOfAll bindings + 1) value tag

end Value

end MoveClient
