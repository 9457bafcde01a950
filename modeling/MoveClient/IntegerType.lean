import MoveClient.Bytes

/-!
The twelve fixed-width integer types.
-/

namespace MoveClient

/-- The width of an integer in bits. -/
inductive IntegerWidth where
  | w8
  | w16
  | w32
  | w64
  | w128
  | w256
deriving DecidableEq, Repr

/-- The number of octets of an integer of the width. -/
def IntegerWidth.octets : IntegerWidth → Nat
  | .w8 => 1
  | .w16 => 2
  | .w32 => 4
  | .w64 => 8
  | .w128 => 16
  | .w256 => 32

/-- An integer type: a width, and whether its numbers have a sign. -/
structure IntegerType where
  signed : Bool
  width : IntegerWidth
deriving DecidableEq, Repr

namespace IntegerType

def u8 : IntegerType := ⟨false, .w8⟩
def u16 : IntegerType := ⟨false, .w16⟩
def u32 : IntegerType := ⟨false, .w32⟩
def u64 : IntegerType := ⟨false, .w64⟩
def u128 : IntegerType := ⟨false, .w128⟩
def u256 : IntegerType := ⟨false, .w256⟩
def i8 : IntegerType := ⟨true, .w8⟩
def i16 : IntegerType := ⟨true, .w16⟩
def i32 : IntegerType := ⟨true, .w32⟩
def i64 : IntegerType := ⟨true, .w64⟩
def i128 : IntegerType := ⟨true, .w128⟩
def i256 : IntegerType := ⟨true, .w256⟩

/-- All integer types, the unsigned ones first, by width. -/
def all : List IntegerType :=
  [u8, u16, u32, u64, u128, u256, i8, i16, i32, i64, i128, i256]

/-- The number of octets that every integer of the type takes. -/
def octets (type : IntegerType) : Nat :=
  type.width.octets

/-- The number of values of the type. -/
def modulus (type : IntegerType) : Nat :=
  256 ^ type.octets

/-- Whether an integer is a value of the type. -/
def Holds (type : IntegerType) (number : Int) : Prop :=
  if type.signed then -(type.modulus / 2 : Nat) ≤ number ∧ number < (type.modulus / 2 : Nat)
  else 0 ≤ number ∧ number < type.modulus

instance (type : IntegerType) (number : Int) : Decidable (type.Holds number) := by
  unfold Holds
  infer_instance

/-- The name of the type: `u` or `i` and the number of bits. -/
def name (type : IntegerType) : String :=
  (if type.signed then "i" else "u") ++ toString (8 * type.octets)

/-- The type of the given name. -/
def ofName? (name : String) : Option IntegerType :=
  all.find? fun type => type.name == name

end IntegerType

end MoveClient
