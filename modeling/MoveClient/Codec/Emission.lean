import MoveClient.Codec.Reader

/-!
Writing wire data.

Writing a value emits octets and may break off with a failure; what was emitted until then stands.
Emissions are joined by `++`: nothing follows one that broke off. Options, sequences and maps are
emitted only once all their parts are known to be complete.
-/

namespace MoveClient

/-- What writing a value puts out. -/
inductive Emission where
  | complete (octets : Bytes)
  | broken (octets : Bytes) (error : Error)
deriving Repr

namespace Emission

/-- The octets put out. -/
def octets : Emission → Bytes
  | complete octets | broken octets _ => octets

/-- The octets of a complete emission, or the failure. -/
def result : Emission → Except Error Bytes
  | complete octets => .ok octets
  | broken _ error => .error error

/-- A failure before anything is put out. -/
def fail (error : Error) : Emission :=
  broken [] error

/-- One emission after the other. -/
def append : Emission → Emission → Emission
  | complete octets, complete next => complete (octets ++ next)
  | complete octets, broken next error => broken (octets ++ next) error
  | broken octets error, _ => broken octets error

instance : Append Emission := ⟨append⟩

/-- Many emissions one after the other. -/
def concat : List Emission → Emission
  | [] => complete []
  | first :: rest => first ++ concat rest

/-- The octets of each emission, if all are complete; else the first failure. -/
def collect : List Emission → Except Error (List Bytes)
  | [] => .ok []
  | first :: rest =>
      match first.result with
      | .error error => .error error
      | .ok octets => (collect rest).map (octets :: ·)

/-- The most decimal digits of an integer that is shown in a message. -/
def maxShownDigits : Nat := 4300

/-- The failure for an integer outside its form. A number with too many digits to be shown fails
as such. -/
def outOfRange (number : Int) (form : IntegerForm) : Error :=
  if number.natAbs < 10 ^ maxShownDigits then .range (.notEncodable (.int number) form)
  else .numberTooLong

/-- The octets of a number in base 128, least significant digit first, all but the last marked by
their top bit; `most` bounds their number. -/
def lengthOctets : (most : Nat) → Nat → Bytes
  | 0, _ => []
  | most + 1, number =>
      if number < 128 then [UInt8.ofNat number]
      else UInt8.ofNat (number % 128 + 128) :: lengthOctets most (number / 128)

/-- A length, count or variant. -/
def length (number : Nat) : Emission :=
  if number ≤ maxLength then complete (lengthOctets maxLengthOctets number)
  else fail (outOfRange number .uleb128)

/-- The octets of an integer of a fixed-width type. -/
def integerOctets (type : IntegerType) (number : Int) : Bytes :=
  if type.signed then Bytes.signedLittleEndian type.octets number
  else Bytes.littleEndian type.octets number.toNat

/-- An integer of a fixed-width type. -/
def integer (type : IntegerType) (number : Int) : Emission :=
  if type.Holds number then complete (integerOctets type number)
  else fail (outOfRange number (.fixed type))

/-- A truth value. -/
def bool (b : Bool) : Emission :=
  complete [if b then 1 else 0]

/-- A byte string behind its length. -/
def bytes (octets : Bytes) : Emission :=
  length octets.length ++ complete octets

/-- The octets of a text in UTF-8. -/
def textOctets (s : String) : Bytes :=
  s.toUTF8.data.toList

/-- Text in UTF-8 behind its length in octets. -/
def text (s : String) : Emission :=
  bytes (textOctets s)

/-- Values behind their count. -/
def sequence (items : List Emission) : Emission :=
  match collect items with
  | .error error => fail error
  | .ok parts => length parts.length ++ complete parts.flatten

/-- A value that may be absent: zero, or one and the value. -/
def option : Option Emission → Emission
  | none => length 0
  | some item =>
      match item.result with
      | .error error => fail error
      | .ok octets => length 1 ++ complete octets

/-- The encoded keys and values of entries; of each entry the key comes first. -/
def collectEntries : List (Emission × Emission) → Except Error (List (Bytes × Bytes))
  | [] => .ok []
  | (key, value) :: rest => do
      let key ← key.result
      let value ← value.result
      let rest ← collectEntries rest
      .ok ((key, value) :: rest)

/-- The order of encoded entries: by key, then by value. -/
def entryAtMost (left right : Bytes × Bytes) : Bool :=
  if left.1 = right.1 then !Bytes.isBefore right.2 left.2 else Bytes.isBefore left.1 right.1

/-- Entries behind their count, in the order of their encoded keys. -/
def map (entries : List (Emission × Emission)) : Emission :=
  match collectEntries entries with
  | .error error => fail error
  | .ok parts =>
      let sorted := parts.mergeSort entryAtMost
      length sorted.length ++ complete (sorted.flatMap fun entry => entry.1 ++ entry.2)

end Emission

end MoveClient
