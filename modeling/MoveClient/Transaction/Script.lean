import MoveClient.Value.Layout
import MoveClient.Value.Printed

/-!
Scripts carried by a transaction.

A script is compiled code with type arguments and arguments. An argument is of one of ten kinds;
its value is not checked before it is written.
-/

namespace MoveClient

/-- The kinds of script arguments, in the order of their numbers on the wire. -/
inductive ScriptArgumentKind where
  | u8
  | u64
  | u128
  | address
  | octets
  | bool
  | u16
  | u32
  | u256
  | serialized
deriving DecidableEq, Repr

namespace ScriptArgumentKind

/-- All kinds, in the order of their numbers. -/
def all : List ScriptArgumentKind :=
  [u8, u64, u128, address, octets, bool, u16, u32, u256, serialized]

/-- The number of the kind on the wire. -/
def variant : ScriptArgumentKind → Nat
  | u8 => 0
  | u64 => 1
  | u128 => 2
  | address => 3
  | octets => 4
  | bool => 5
  | u16 => 6
  | u32 => 7
  | u256 => 8
  | serialized => 9

/-- The kind of the given number. -/
def ofVariant? (variant : Nat) : Option ScriptArgumentKind :=
  all[variant]?

/-- How values of the kind stand on the wire. -/
def layout : ScriptArgumentKind → Layout
  | u8 => .integer .u8
  | u64 => .integer .u64
  | u128 => .integer .u128
  | address => .struct .address
  | octets | serialized => .bytes
  | bool => .bool
  | u16 => .integer .u16
  | u32 => .integer .u32
  | u256 => .integer .u256

theorem ofVariant?_variant (kind : ScriptArgumentKind) : ofVariant? kind.variant = some kind := by
  cases kind <;> rfl

end ScriptArgumentKind

/-- An argument of a script. -/
structure ScriptArgument where
  kind : ScriptArgumentKind
  value : Value
deriving Repr

/-- A script with its arguments. -/
structure Script where
  code : Bytes
  typeArguments : List TypeTag
  arguments : List ScriptArgument
deriving Repr

namespace ScriptArgument

/-- An argument of the kind with the given number. -/
def make (variant : Nat) (value : Value) : Except Error ScriptArgument :=
  match ScriptArgumentKind.ofVariant? variant with
  | some kind => .ok ⟨kind, value⟩
  | none => .error (.codec (.unknownVariant .scriptArgument variant))

/-- Whether two arguments are of one kind and have equal values. -/
def same (left right : ScriptArgument) : Bool :=
  left.kind == right.kind && left.value.same right.value

/-- The printed form. -/
def text (argument : ScriptArgument) : String :=
  "[" ++ toString argument.kind.variant ++ "] " ++ argument.value.shown

/-- Writes the number of the kind and the value. -/
def write (argument : ScriptArgument) : Emission :=
  .integer .u8 argument.kind.variant ++ argument.kind.layout.write argument.value

/-- Reads the number of the kind and the value. -/
def read : Reader ScriptArgument := do
  let variant ← Reader.octet
  match ScriptArgumentKind.ofVariant? variant.toNat with
  | some kind => do
      let value ← kind.layout.read
      pure ⟨kind, value⟩
  | none => throw (.codec (.unknownVariant .scriptArgument variant.toNat))

end ScriptArgument

namespace Script

/-- Whether code, type arguments and arguments are equal. -/
def same (left right : Script) : Bool :=
  left.code == right.code && left.typeArguments == right.typeArguments &&
    left.arguments.length == right.arguments.length &&
    (left.arguments.zip right.arguments).all fun pair => pair.1.same pair.2

/-- The printed form: type arguments and arguments as lists. -/
def text (script : Script) : String :=
  "<[" ++ Value.joined (script.typeArguments.map TypeTag.text) ++ "]>([" ++
    Value.joined (script.arguments.map ScriptArgument.text) ++ "])"

/-- Writes code, type arguments and arguments. -/
def write (script : Script) : Emission :=
  .bytes script.code ++ .sequence (TypeTag.writeAll script.typeArguments) ++
    .sequence (script.arguments.map ScriptArgument.write)

/-- Reads code, type arguments and arguments. -/
def read : Reader Script := do
  let code ← Reader.bytes
  let typeArguments ← Reader.sequence TypeTag.read
  let arguments ← Reader.sequence ScriptArgument.read
  pure { code, typeArguments, arguments }

end Script

end MoveClient
