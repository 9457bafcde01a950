import MoveClient.TypeTag.Codec

/-!
Wire layouts of values of no fixed type.

A layout says how a value is written and what is read back. Writing checks the value against the
layout; reading gives values that the same layout writes.
-/

namespace MoveClient

/-- The values with a wire form of their own. -/
inductive StructKind where
  | address
  | typeTag
  | structTag
deriving DecidableEq, Repr

/-- How a value of no fixed type stands on the wire. -/
inductive Layout where
  | bool
  | integer (type : IntegerType)
  | uleb128
  | text
  | bytes
  | raw (size : Nat)
  | struct (kind : StructKind)
  | option (element : Layout)
  | sequence (element : Layout)
  | map (key value : Layout)
deriving DecidableEq, Repr

instance : Inhabited Layout := ⟨.bool⟩

namespace Value

/-- The items that a value gives when it is gone through: the items of a list or tuple, the
code points of a text, the octets of a byte string, the keys of a map. -/
def items? : Value → Option (List Value)
  | .list items | .tuple items => some items
  | .text s => some (s.toList.map fun c => .text c.toString)
  | .brokenText broken => some (textsOf broken.codePoints)
  | .bytes octets | .buffer octets => some (octets.map fun octet => .int octet.toNat)
  | .map entries => some (entries.map Prod.fst)
  | _ => none

/-- Writes a truth value; nothing else is one. -/
def writeBool : Value → Emission
  | .bool b => .bool b
  | value => .fail (Error.range (.notBool value)).stated

/-- Writes an integer; a truth value is none. -/
def writeInteger (form : IntegerForm) : Value → Emission
  | .int number =>
      match form with
      | .fixed width => .integer width number
      | .uleb128 =>
          if number < 0 then .fail (Emission.outOfRange number .uleb128)
          else .length number.toNat
  | value => .fail (Error.range (.notEncodable value form)).stated

/-- Writes text; a half of a character has no octets. -/
def writeText : Value → Emission
  | .text s => .text s
  | .brokenText _ => .fail .halfCharacter
  | _ => .fail .wrongKind

/-- Writes octets without a length. -/
def writeRaw : Value → Emission
  | .bytes octets | .buffer octets => .complete octets
  | _ => .fail .wrongKind

/-- Writes a byte string behind its length. The length of any value with items is put out before
the kind is looked at. -/
def writeBytes (value : Value) : Emission :=
  match value.items? with
  | some items => .length items.length ++ writeRaw value
  | none => .fail .wrongKind

/-- Writes a value with a wire form of its own. -/
def writeStruct : Value → Emission
  | .address a => a.write
  | .type tag => tag.write
  | _ => .fail .wrongKind

end Value

namespace Layout

/-- Writes a value in the layout. How many octets a raw field has, and which kind of value has a
wire form of its own, is not checked. -/
def write : Layout → Value → Emission
  | .bool, value => value.writeBool
  | .integer type, value => value.writeInteger (.fixed type)
  | .uleb128, value => value.writeInteger .uleb128
  | .text, value => value.writeText
  | .bytes, value => value.writeBytes
  | .raw _, value => value.writeRaw
  | .struct _, value => value.writeStruct
  | .option _, .null => .option none
  | .option element, value => .option (some (element.write value))
  | .sequence element, value =>
      match value.items? with
      | some items => .sequence (items.map fun item => element.write item)
      | none => .fail .wrongKind
  | .map keyLayout valueLayout, .map entries =>
      .map (entries.map fun entry => (keyLayout.write entry.1, valueLayout.write entry.2))
  | .map _ _, _ => .fail .wrongKind

/-- Reads a key and a value and adds them to the entries read before. -/
def readEntry (key value : Reader Value) (entries : List (Value × Value)) :
    Reader (List (Value × Value)) := do
  let key ← key
  let value ← value
  if key.isKey then pure (Value.setEntry key value entries) else throw .wrongKind

/-- Reads `count` entries. -/
def readEntries (key value : Reader Value) :
    (count : Nat) → List (Value × Value) → Reader (List (Value × Value))
  | 0, entries => pure entries
  | count + 1, entries => do
      let entries ← readEntry key value entries
      readEntries key value count entries

/-- Reads a value in the layout. -/
def read : Layout → Reader Value
  | .bool => Value.bool <$> Reader.bool
  | .integer type => Value.int <$> Reader.integer type
  | .uleb128 => (fun number => Value.int number) <$> Reader.length
  | .text => Value.text <$> Reader.text
  | .bytes => Value.bytes <$> Reader.bytes
  | .raw size => Value.bytes <$> Reader.octets size
  | .struct .address => Value.address <$> Address.read
  | .struct .typeTag => Value.type <$> TypeTag.read
  | .struct .structTag => (fun tag => Value.type tag.toTypeTag) <$> StructTag.read
  | .option element => (fun value => value.getD .null) <$> Reader.option element.read
  | .sequence element => Value.list <$> Reader.sequence element.read
  | .map keyLayout valueLayout => do
      let count ← Reader.length
      let entries ← readEntries keyLayout.read valueLayout.read count []
      pure (.map entries)

end Layout

end MoveClient
