import MoveClient.Error

/-!
Reading wire data.

A reader takes a value off the front of a byte string. It leaves the octets behind the value, or,
when it fails, the octets behind the point of failure; a field that wants more octets than there
are consumes what is left.

Numbers of the wire are of two kinds: fixed-width little-endian ones, and lengths and variants in
base 128, which must be minimal and below 2^32.
-/

namespace MoveClient

/-- Takes a value off the front of a byte string, or fails; the state is what is left. -/
abbrev Reader := EStateM Error Bytes

/-- The largest length or variant on the wire. -/
def maxLength : Nat := 2 ^ (32 : Nat) - 1

/-- The most octets of a length or variant. -/
def maxLengthOctets : Nat := 5

namespace Reader

/-- Splits off exactly `count` octets, if there are as many. -/
def splitExact : (count : Nat) → Bytes → Option (Bytes × Bytes)
  | 0, input => some ([], input)
  | _ + 1, [] => none
  | count + 1, octet :: rest =>
      (splitExact count rest).map fun parts => (octet :: parts.1, parts.2)

/-- Exactly `count` octets. -/
def octets (count : Nat) : Reader Bytes := fun input =>
  match splitExact count input with
  | some (taken, rest) => .ok taken rest
  | none => .error (.codec (.endOfInput count input.length)) []

/-- One octet. -/
def octet : Reader UInt8 := fun input =>
  match input with
  | first :: rest => .ok first rest
  | [] => .error (.codec (.endOfInput 1 0)) []

/-- An integer of a fixed-width type. -/
def integer (type : IntegerType) : Reader Int := do
  let spelled ← octets type.octets
  pure (if type.signed then Bytes.ofSignedLittleEndian spelled else Bytes.ofLittleEndian spelled)

/-- The digits of a base 128 number from place `place` on, with `left` more octets allowed;
`number` is the sum of the places before. -/
def lengthFrom : (left place number : Nat) → Reader Nat
  | 0, _, _ => throw (.codec .numberTooLong)
  | left + 1, place, number => do
      let digit ← octet
      let number := number + digit.toNat % 128 * 128 ^ place
      if 128 ≤ digit.toNat then lengthFrom left (place + 1) number
      else if digit = 0 ∧ 0 < place then throw (.codec .paddedNumber)
      else if maxLength < number then throw (.codec (.numberTooLarge number))
      else pure number

/-- A length, count or variant. -/
def length : Reader Nat :=
  lengthFrom maxLengthOctets 0 0

/-- A truth value: an octet that is zero or one. -/
def bool : Reader Bool := do
  let digit ← octet
  if digit = 0 then pure false
  else if digit = 1 then pure true
  else throw (.codec (.invalidBool digit.toNat))

/-- A byte string behind its length. -/
def bytes : Reader Bytes := do
  octets (← length)

/-- The text that octets spell in UTF-8. -/
def textOf? (spelled : Bytes) : Option String :=
  String.fromUTF8? ⟨spelled.toArray⟩

/-- Text in UTF-8 behind its length in octets. -/
def text : Reader String := do
  match textOf? (← bytes) with
  | some s => pure s
  | none => throw (.codec .invalidText)

/-- Exactly `count` values. -/
def many {α : Type} (element : Reader α) : (count : Nat) → Reader (List α)
  | 0 => pure []
  | count + 1 => do
      let first ← element
      let rest ← many element count
      pure (first :: rest)

/-- Values behind their count. -/
def sequence {α : Type} (element : Reader α) : Reader (List α) := do
  many element (← length)

/-- A value that may be absent: zero, or one and the value. -/
def option {α : Type} (element : Reader α) : Reader (Option α) := do
  let tag ← length
  if tag = 0 then pure none
  else if tag = 1 then do
    let value ← element
    pure (some value)
  else throw (.codec (.invalidOptionTag tag))

/-- Reads a whole byte string as one value; `type` names it if octets are left over. -/
def whole {α : Type} (type : String) (element : Reader α) (input : Bytes) : Except Error α :=
  match element input with
  | .ok value [] => .ok value
  | .ok _ rest => .error (.codec (.trailingBytes rest.length type))
  | .error error _ => .error error

end Reader

end MoveClient
