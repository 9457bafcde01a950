import MoveClient.Bytes.Hex

/-!
Account addresses.

An address is 32 octets. The sixteen addresses whose octets are zero but for the last hexadecimal
digit are *special*: they are printed as that one digit, every other address as all 64.
-/

namespace MoveClient

/-- The 32 octets that name an account or an object. -/
structure Address where
  bytes : Bytes
  length_eq : bytes.length = 32
deriving DecidableEq, Repr

namespace Address

/-- The number of octets of an address. -/
def size : Nat := 32

/-- The address with the given octets, if there are exactly 32. -/
def ofBytes? (bytes : Bytes) : Option Address :=
  if h : bytes.length = 32 then some ⟨bytes, h⟩ else none

/-- The address that spells a number, most significant octet first. -/
def ofNat (number : Nat) : Address :=
  ⟨Bytes.bigEndian 32 number, by simp⟩

/-- The address `0x0`. -/
def zero : Address := ofNat 0

/-- The address `0x1`, where the framework's modules live. -/
def one : Address := ofNat 1

instance : Inhabited Address := ⟨zero⟩

/-- Whether every octet but the last is zero and the last is below sixteen. -/
def isSpecial (address : Address) : Bool :=
  (address.bytes.take 31).all (· == 0) && (address.bytes.drop 31).all (· < 16)

/-- `0x` and all 64 hexadecimal digits. -/
def longText (address : Address) : String :=
  String.ofList ('0' :: 'x' :: Bytes.hexDigits address.bytes)

/-- The printed form: one digit after `0x` for a special address, all 64 for any other. -/
def text (address : Address) : String :=
  let digits := Bytes.hexDigits address.bytes
  String.ofList ('0' :: 'x' :: if address.isSpecial then digits.drop 63 else digits)

theorem ofBytes?_bytes (address : Address) : ofBytes? address.bytes = some address := by
  simp [ofBytes?, address.length_eq]

end Address

end MoveClient
