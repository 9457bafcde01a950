import MoveClient.Address.Text
import MoveClient.Text.Quoted
import MoveClient.TypeTag.Codec
import MoveClient.Value.Printed

/-!
Calls of published functions.

A module is named by the address it is published under and its own name; a call names a function
of a module and carries type arguments and arguments that are encoded already.
-/

namespace MoveClient

/-- The name of a published module. -/
structure ModuleId where
  address : Address
  name : String
deriving DecidableEq, Repr

/-- A call of a published function. -/
structure EntryFunction where
  module : ModuleId
  function : String
  typeArguments : List TypeTag
  arguments : List Bytes
deriving DecidableEq, Repr

namespace ModuleId

/-- The characters before the first pair of colons, and those after it, if there is one. -/
def splitColons : List Char → List Char × Option (List Char)
  | ':' :: ':' :: rest => ([], some rest)
  | [] => ([], none)
  | c :: rest => (c :: (splitColons rest).1, (splitColons rest).2)

/-- Reads `address::name`, with the address in the relaxed form. -/
def parse (text : String) : Except Error ModuleId :=
  let invalid : Except Error ModuleId := .error (.parse (.invalidModule text))
  match splitColons text.toList with
  | (_, none) | (_, some []) => invalid
  | (owner, some name) =>
      match splitColons name with
      | (_, some _) => invalid
      | (_, none) =>
          match Address.parseRelaxed (String.ofList owner) with
          | .ok address => .ok ⟨address, String.ofList name⟩
          | .error cause => .error (.addressText cause)

/-- The printed form. -/
def text (module : ModuleId) : String :=
  module.address.text ++ "::" ++ module.name

/-- Writes address and name. -/
def write (module : ModuleId) : Emission :=
  module.address.write ++ .text module.name

/-- Reads address and name. -/
def read : Reader ModuleId := do
  let address ← Address.read
  let name ← Reader.text
  pure { address, name }

end ModuleId

namespace EntryFunction

/-- The printed form: type arguments and arguments as lists, each argument as a quoted byte
string. -/
def text (call : EntryFunction) : String :=
  call.module.text ++ "::" ++ call.function ++ "::<[" ++
    Value.joined (call.typeArguments.map TypeTag.text) ++ "]>([" ++
    Value.joined (call.arguments.map Quoted.bytes) ++ "])"

/-- Writes module, function, type arguments and arguments. -/
def write (call : EntryFunction) : Emission :=
  call.module.write ++ .text call.function ++ .sequence (TypeTag.writeAll call.typeArguments) ++
    .sequence (call.arguments.map Emission.bytes)

/-- Reads module, function, type arguments and arguments. -/
def read : Reader EntryFunction := do
  let module ← ModuleId.read
  let function ← Reader.text
  let typeArguments ← Reader.sequence TypeTag.read
  let arguments ← Reader.sequence Reader.bytes
  pure { module, function, typeArguments, arguments }

end EntryFunction

end MoveClient
