import MoveClient.Proofs.Wire.TypeTag
import MoveClient.Value.Layout

/-!
The wire forms of values of no fixed type.

Owns:
- `Value.IsIntegerOf`, the values that an integer field can hold;
- for each way to write a value, which values it writes, and what it puts out for them;
- the laws of the layouts that read a value without parts.

Does not own: options, sequences and maps of values.
-/

namespace MoveClient

open Reader

namespace Value

variable {value : Value} {input rest : Bytes}

/-- The value is an integer of the type: no truth value, and in range. -/
def IsIntegerOf (type : IntegerType) : Value → Prop
  | .int number => type.Holds number
  | _ => False

theorem exists_int_of_isIntegerOf
    {type : IntegerType}
    (fits : value.IsIntegerOf type) :
    ∃ number, value = .int number ∧ type.Holds number := by
  cases value with
  | int number => exact ⟨number, rfl, fits⟩
  | _ => exact fits.elim

@[simp] theorem spells_writeInteger_iff {type : IntegerType} :
    (value.writeInteger (.fixed type)).Spells input rest ↔
      ∃ number, value = .int number ∧ (Emission.integer type number).Spells input rest := by
  cases value <;> simp [writeInteger]

@[simp] theorem isComplete_writeInteger_iff {type : IntegerType} :
    (value.writeInteger (.fixed type)).IsComplete ↔ value.IsIntegerOf type := by
  cases value <;> simp [writeInteger, IsIntegerOf]

@[simp] theorem spells_writeBool_iff :
    value.writeBool.Spells input rest ↔
      ∃ b, value = .bool b ∧ (Emission.bool b).Spells input rest := by
  cases value <;> simp [writeBool]

/-- Whatever has items puts out a count, but only byte strings come to an end. -/
@[simp] theorem spells_writeBytes_iff :
    value.writeBytes.Spells input rest ↔
      ∃ octets, (value = .bytes octets ∨ value = .buffer octets) ∧
        (Emission.bytes octets).Spells input rest := by
  cases value <;> simp [writeBytes, items?, writeRaw, Emission.bytes]

@[simp] theorem spells_writeStruct_iff :
    value.writeStruct.Spells input rest ↔
      (∃ address, value = .address address ∧ address.write.Spells input rest) ∨
        ∃ tag, value = .type tag ∧ tag.write.Spells input rest := by
  cases value <;> simp [writeStruct]

end Value

namespace Layout

variable {value : Value} {input rest : Bytes}

theorem read_integer_eq_ok_iff {type : IntegerType} :
    (Layout.integer type).read input = .ok value rest ↔
      ((Layout.integer type).write value).Spells input rest := by
  simp only [read, write, map_eq_ok_iff, integer_eq_ok_iff, Value.spells_writeInteger_iff]
  constructor
  · rintro ⟨number, spelled, rfl⟩
    exact ⟨number, rfl, spelled⟩
  · rintro ⟨number, rfl, spelled⟩
    exact ⟨number, spelled, rfl⟩

theorem read_bool_eq_ok_iff :
    Layout.bool.read input = .ok value rest ↔ (Layout.bool.write value).Spells input rest := by
  simp only [read, write, map_eq_ok_iff, bool_eq_ok_iff, Value.spells_writeBool_iff]
  constructor
  · rintro ⟨b, spelled, rfl⟩
    exact ⟨b, rfl, spelled⟩
  · rintro ⟨b, rfl, spelled⟩
    exact ⟨b, spelled, rfl⟩

/-- A byte string is never read as a buffer, though a buffer is written like one. -/
theorem read_bytes_eq_ok_iff :
    Layout.bytes.read input = .ok value rest ↔
      (∃ octets, value = .bytes octets) ∧ (Layout.bytes.write value).Spells input rest := by
  simp only [read, write, map_eq_ok_iff, bytes_eq_ok_iff, Value.spells_writeBytes_iff]
  constructor
  · rintro ⟨octets, spelled, rfl⟩
    exact ⟨⟨octets, rfl⟩, octets, .inl rfl, spelled⟩
  · rintro ⟨⟨octets, rfl⟩, written, writtenEq, spelled⟩
    cases writtenEq with
    | inl bytesEq =>
        cases bytesEq
        exact ⟨octets, spelled, rfl⟩
    | inr bufferEq => cases bufferEq

/-- An address is never read as a type, though a type is written in its place. -/
theorem read_address_eq_ok_iff :
    (Layout.struct .address).read input = .ok value rest ↔
      (∃ address, value = .address address) ∧
        ((Layout.struct .address).write value).Spells input rest := by
  simp only [read, write, map_eq_ok_iff, Address.read_eq_ok_iff, Value.spells_writeStruct_iff]
  constructor
  · rintro ⟨address, spelled, rfl⟩
    exact ⟨⟨address, rfl⟩, .inl ⟨address, rfl, spelled⟩⟩
  · rintro ⟨⟨address, rfl⟩, ⟨_, addressEq, spelled⟩ | ⟨_, typeEq, _⟩⟩
    · cases addressEq
      exact ⟨address, spelled, rfl⟩
    · cases typeEq

end Layout

end MoveClient
