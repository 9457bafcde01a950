/-!
Byte strings and the numbers they spell.

A byte string is a list of octets, the form every codec and hash of the library works on.
Numbers are spelled in a given number of octets, least or most significant first; spelling
is followed by the two lemmas that make it invertible (`littleEndian_length` and
`ofLittleEndian_littleEndian`).
-/

namespace MoveClient

-- Powers of natural numbers are those of the core library, whatever else is in scope.
attribute [scoped instance (2000)] instPowNat

/-- A string of octets. -/
abbrev Bytes := List UInt8

namespace Bytes

/-- The `width` low octets of a number, least significant first. -/
def littleEndian : (width : Nat) → (number : Nat) → Bytes
  | 0, _ => []
  | width + 1, number => UInt8.ofNat number :: littleEndian width (number / 256)

/-- The number spelled by octets, least significant first. -/
def ofLittleEndian : Bytes → Nat
  | [] => 0
  | octet :: rest => octet.toNat + 256 * ofLittleEndian rest

/-- The `width` low octets of a number, most significant first. -/
def bigEndian (width number : Nat) : Bytes :=
  (littleEndian width number).reverse

/-- The number spelled by octets, most significant first. -/
def ofBigEndian (octets : Bytes) : Nat :=
  ofLittleEndian octets.reverse

/-- The two's complement spelling of an integer in `width` octets, least significant first. -/
def signedLittleEndian (width : Nat) (number : Int) : Bytes :=
  littleEndian width (number % (256 ^ width : Nat)).toNat

/-- The integer whose two's complement spelling the octets are. -/
def ofSignedLittleEndian (octets : Bytes) : Int :=
  (ofLittleEndian octets : Int).bmod (256 ^ octets.length)

/-- The first `count` parts of `size` octets each. -/
def chunks (size : Nat) : (count : Nat) → Bytes → List Bytes
  | 0, _ => []
  | count + 1, octets => octets.take size :: chunks size count (octets.drop size)

/-- The order of byte strings: the first octet that differs decides, a proper beginning
comes first. -/
def isBefore : Bytes → Bytes → Bool
  | _, [] => false
  | [], _ :: _ => true
  | first :: rest, first' :: rest' =>
      if first = first' then isBefore rest rest' else first < first'

@[simp] theorem littleEndian_length (width number : Nat) :
    (littleEndian width number).length = width := by
  induction width generalizing number with
  | zero => rfl
  | succ width inductionHypothesis => simp [littleEndian, inductionHypothesis]

theorem ofLittleEndian_littleEndian (width number : Nat) :
    ofLittleEndian (littleEndian width number) = number % 256 ^ width := by
  induction width generalizing number with
  | zero => simp [littleEndian, ofLittleEndian, Nat.mod_one]
  | succ width inductionHypothesis =>
      have power : 256 ^ (width + 1) = 256 * 256 ^ width := by rw [Nat.pow_succ, Nat.mul_comm]
      rw [power, Nat.mod_mul]
      simp [littleEndian, ofLittleEndian, inductionHypothesis]

theorem ofLittleEndian_lt (octets : Bytes) : ofLittleEndian octets < 256 ^ octets.length := by
  induction octets with
  | nil => simp [ofLittleEndian]
  | cons octet rest inductionHypothesis =>
      have octetLt := octet.toNat_lt
      simp only [ofLittleEndian, List.length_cons, Nat.pow_succ]
      omega

theorem littleEndian_ofLittleEndian (octets : Bytes) :
    littleEndian octets.length (ofLittleEndian octets) = octets := by
  induction octets with
  | nil => rfl
  | cons octet rest inductionHypothesis =>
      have octetLt := octet.toNat_lt
      have quotient : (octet.toNat + 256 * ofLittleEndian rest) / 256 = ofLittleEndian rest := by
        omega
      have low : UInt8.ofNat (octet.toNat + 256 * ofLittleEndian rest) = octet := by
        apply UInt8.toNat_inj.mp
        simp only [UInt8.toNat_ofNat']
        omega
      simp [littleEndian, ofLittleEndian, quotient, low, inductionHypothesis]

@[simp] theorem bigEndian_length (width number : Nat) :
    (bigEndian width number).length = width := by
  simp [bigEndian]

theorem ofBigEndian_bigEndian (width number : Nat) :
    ofBigEndian (bigEndian width number) = number % 256 ^ width := by
  simp [ofBigEndian, bigEndian, ofLittleEndian_littleEndian]

theorem bigEndian_ofBigEndian
    {octets : Bytes}
    {width : Nat}
    (lengthEq : octets.length = width) :
    bigEndian width (ofBigEndian octets) = octets := by
  rw [bigEndian, ofBigEndian, ← lengthEq, ← octets.length_reverse, littleEndian_ofLittleEndian,
    List.reverse_reverse]

theorem ofBigEndian_lt (octets : Bytes) : ofBigEndian octets < 256 ^ octets.length := by
  rw [ofBigEndian, ← octets.length_reverse]
  exact ofLittleEndian_lt octets.reverse

end Bytes

end MoveClient
