import MoveClient.Bytes

/-!
Byte strings of a fixed length.
-/

namespace MoveClient

/-- A byte string of exactly `size` octets. -/
structure Octets (size : Nat) where
  bytes : Bytes
  length_eq : bytes.length = size
deriving DecidableEq, Repr

namespace Octets

variable {size : Nat}

/-- The byte string, if it has the length. -/
def ofBytes? (size : Nat) (bytes : Bytes) : Option (Octets size) :=
  if h : bytes.length = size then some ⟨bytes, h⟩ else none

/-- All octets zero. -/
def zero (size : Nat) : Octets size :=
  ⟨List.replicate size 0, by simp⟩

/-- The octets that spell a number, most significant first; higher octets of it are left out. -/
def ofNumber (size number : Nat) : Octets size :=
  ⟨Bytes.bigEndian size number, Bytes.bigEndian_length size number⟩

instance : Inhabited (Octets size) := ⟨zero size⟩

theorem ofBytes?_bytes (octets : Octets size) : ofBytes? size octets.bytes = some octets := by
  simp [ofBytes?, octets.length_eq]

end Octets

end MoveClient
