import MoveClient.Error.Showable

/-!
Addresses and types on the wire.

An address is its 32 octets. A type is its variant number and its parts; references and type
parameters have no wire form. Reading a type consumes at least one octet for each node, so the
number of octets bounds the depth.
-/

namespace MoveClient

namespace Address

/-- Writes the 32 octets. -/
def write (address : Address) : Emission :=
  .complete address.bytes

/-- Reads 32 octets. -/
def read : Reader Address := do
  let octets ← Reader.octets 32
  match ofBytes? octets with
  | some address => pure address
  | none => throw (.range (.addressLength octets.length))

end Address

namespace TypeTag

mutual

/-- Writes the variant number and the parts. -/
def write : TypeTag → Emission
  | .primitive type => .length type.variant
  | .vector element => .length 6 ++ element.write
  | .struct address module name arguments =>
      .length 7 ++ address.write ++ .text module ++ .text name ++ .sequence (writeAll arguments)
  | .generic index => .fail (Error.codec (.noWireForm (.generic index))).stated
  | .reference target => .fail (Error.codec (.noWireForm (.reference target))).stated

/-- Writes each type by itself. -/
def writeAll : List TypeTag → List Emission
  | [] => []
  | first :: rest => first.write :: writeAll rest

end

/-- Reads a type with at most `depth` nested types. -/
def readNested : (depth : Nat) → Reader TypeTag
  | 0 => throw (.codec (.endOfInput 1 0))
  | depth + 1 => do
      let variant ← Reader.length
      match PrimitiveType.ofVariant? variant with
      | some type => pure (.primitive type)
      | none =>
          if variant = 6 then do
            let element ← readNested depth
            pure (.vector element)
          else if variant = 7 then do
            let address ← Address.read
            let module ← Reader.text
            let name ← Reader.text
            let arguments ← Reader.sequence (readNested depth)
            pure (.struct address module name arguments)
          else throw (.codec (.unknownVariant .typeTag variant))

/-- Reads a type. -/
def read : Reader TypeTag := fun input =>
  readNested (input.length + 1) input

end TypeTag

namespace StructTag

/-- Writes address, module, name and type arguments, without a variant number. -/
def write (tag : StructTag) : Emission :=
  tag.address.write ++ .text tag.module ++ .text tag.name ++
    .sequence (TypeTag.writeAll tag.typeArguments)

/-- Reads address, module, name and type arguments. -/
def read : Reader StructTag := do
  let address ← Address.read
  let module ← Reader.text
  let name ← Reader.text
  let typeArguments ← Reader.sequence TypeTag.read
  pure { address, module, name, typeArguments }

end StructTag

end MoveClient
