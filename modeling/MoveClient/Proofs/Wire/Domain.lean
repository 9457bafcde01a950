import MoveClient.Proofs.Wire.Maps
import MoveClient.Proofs.Wire.Value

/-!
The values of a layout.

Owns:
- `Layout.Holds`, which says of which values a layout is the wire form;
- `Layout.IsPaired`, the layouts whose values are read where they were written;
- that equal keys of one layout are the same value;
- which layouts without parts read exactly what they write.

Does not own: the wire forms of options, sequences and maps.
-/

namespace MoveClient

open Reader

namespace Value

/-- What is read for a value without parts: a buffer is read as the byte string that it holds. -/
def frozen : Value → Value
  | .buffer octets => .bytes octets
  | value => value

theorem frozen_frozen (value : Value) : value.frozen.frozen = value.frozen := by
  cases value <;> rfl

theorem frozen_of_isKey
    {value : Value}
    (key : value.isKey = true) :
    value.frozen = value := by
  cases value with
  | buffer octets => cases key
  | _ => rfl

end Value

namespace Layout

/-- The value belongs to the layout: it is of the kind that the layout writes, in range and short
enough, and so are its parts. The entries of a map have different keys, which may be keys. -/
def Holds : Layout → Value → Prop
  | .bool, value => ∃ b, value = .bool b
  | .integer type, value => ∃ number, value = .int number ∧ type.Holds number
  | .uleb128, value => ∃ number : Nat, value = .int number ∧ number ≤ maxLength
  | .text, value => ∃ s, value = .text s ∧ (Emission.textOctets s).length ≤ maxLength
  | .bytes, value => ∃ octets, value.frozen = .bytes octets ∧ octets.length ≤ maxLength
  | .raw size, value => ∃ octets, value.frozen = .bytes octets ∧ octets.length = size
  | .struct .address, value => ∃ address, value = .address address
  | .struct .typeTag, value => ∃ tag, value = .type tag ∧ tag.HasWireForm
  | .struct .structTag, _ => False
  | .option element, value => value = .null ∨ element.Holds value
  | .sequence element, value =>
      ∃ items, value = .list items ∧ items.length ≤ maxLength ∧ ∀ item ∈ items, element.Holds item
  | .map keyLayout valueLayout, value =>
      ∃ entries, value = .map entries ∧ entries.length ≤ maxLength ∧
        Value.DistinctKeys entries ∧
          ∀ entry ∈ entries, (entry.1.isKey = true ∧ keyLayout.Holds entry.1) ∧
            valueLayout.Holds entry.2

/-- Writer and reader of the layout belong together. A structure type is written as a type, but
read without the number of its variant. -/
def IsPaired : Layout → Prop
  | .struct .structTag => False
  | .option element | .sequence element => element.IsPaired
  | .map key value => key.IsPaired ∧ value.IsPaired
  | _ => True

/-- The layout has no parts. -/
def IsPlain : Layout → Prop
  | .option _ | .sequence _ | .map _ _ => False
  | _ => True

variable {layout : Layout} {value other : Value} {input rest : Bytes}

/-! ## Equal values -/

/-- Keys of one layout are equal only if they are the same value. -/
theorem eq_of_same
    (holds : layout.Holds value)
    (otherHolds : layout.Holds other)
    (key : value.isKey = true)
    (otherKey : other.isKey = true)
    (same : value.same other = true) :
    value = other := by
  induction layout with
  | option element inductionHypothesis =>
      rcases holds with rfl | holds
      · cases other with
        | null => rfl
        | _ => cases same
      · rcases otherHolds with rfl | otherHolds
        · cases value with
          | null => rfl
          | _ => cases same
        · exact inductionHypothesis holds otherHolds
  | sequence element =>
      obtain ⟨items, rfl, _⟩ := holds
      cases key
  | map keyLayout valueLayout =>
      obtain ⟨entries, rfl, _⟩ := holds
      cases key
  | bool =>
      obtain ⟨b, rfl⟩ := holds
      obtain ⟨b', rfl⟩ := otherHolds
      simpa [Value.same] using same
  | integer type =>
      obtain ⟨number, rfl, _⟩ := holds
      obtain ⟨number', rfl, _⟩ := otherHolds
      simpa [Value.same] using same
  | uleb128 =>
      obtain ⟨number, rfl, _⟩ := holds
      obtain ⟨number', rfl, _⟩ := otherHolds
      simpa [Value.same] using same
  | text =>
      obtain ⟨s, rfl, _⟩ := holds
      obtain ⟨s', rfl, _⟩ := otherHolds
      simpa [Value.same] using same
  | bytes | raw size =>
      obtain ⟨octets, frozen, _⟩ := holds
      obtain ⟨octets', frozen', _⟩ := otherHolds
      rw [Value.frozen_of_isKey key] at frozen
      rw [Value.frozen_of_isKey otherKey] at frozen'
      rw [frozen, frozen'] at same ⊢
      simpa [Value.same] using same
  | struct kind =>
      cases kind with
      | address =>
          obtain ⟨address, rfl⟩ := holds
          obtain ⟨address', rfl⟩ := otherHolds
          simpa [Value.same] using same
      | typeTag =>
          obtain ⟨tag, rfl, _⟩ := holds
          obtain ⟨tag', rfl, _⟩ := otherHolds
          simpa [Value.same] using same
      | structTag => cases holds

/-! ## Layouts without parts -/

theorem write_uleb128 (number : Nat) :
    Layout.uleb128.write (.int number) = .length number := by
  have notNegative : ¬ (number : Int) < 0 := by omega
  rw [write, Value.writeInteger, if_neg notNegative, Int.toNat_natCast]

theorem write_bytes (octets : Bytes) : Layout.bytes.write (.bytes octets) = .bytes octets := by
  simp [write, Value.writeBytes, Value.items?, Value.writeRaw, Emission.bytes]

/-- A value without parts is equal to what is read for it, which is written like it. -/
theorem frozen_of_holds
    (plain : layout.IsPlain)
    (holds : layout.Holds value) :
    layout.Holds value.frozen ∧ layout.write value.frozen = layout.write value ∧
      (layout.write value).IsComplete ∧ value.same value.frozen = true := by
  cases layout with
  | option element | sequence element | map keyLayout valueLayout => cases plain
  | bool =>
      obtain ⟨b, rfl⟩ := holds
      simp [Value.frozen, Holds, write, Value.writeBool, Value.same]
  | integer type =>
      obtain ⟨number, rfl, inRange⟩ := holds
      simp [Value.frozen, Holds, write, Value.IsIntegerOf, Value.same, inRange]
  | uleb128 =>
      obtain ⟨number, rfl, small⟩ := holds
      refine ⟨⟨number, rfl, small⟩, rfl, ?_, by simp [Value.frozen, Value.same]⟩
      rw [write_uleb128]
      exact Emission.isComplete_length_iff.mpr small
  | text =>
      obtain ⟨s, rfl, short⟩ := holds
      simp [Value.frozen, Holds, write, Value.writeText, Value.same, short]
  | bytes =>
      obtain ⟨octets, frozen, short⟩ := holds
      cases value <;> simp_all [Value.frozen, Holds, write, Value.writeBytes, Value.items?,
        Value.writeRaw, Value.same]
  | raw size =>
      obtain ⟨octets, frozen, lengthEq⟩ := holds
      cases value <;> simp_all [Value.frozen, Holds, write, Value.writeRaw, Value.same]
  | struct kind =>
      cases kind with
      | address =>
          obtain ⟨address, rfl⟩ := holds
          simp [Value.frozen, Holds, write, Value.writeStruct, Value.same]
      | typeTag =>
          obtain ⟨tag, rfl, wireForm⟩ := holds
          simp [Value.frozen, Holds, write, Value.writeStruct, Value.same, wireForm,
            TypeTag.isComplete_write_iff]
      | structTag => cases holds

/-- Where a reader takes what is put out for its contents, the contents of values are read where
the values are written. -/
theorem map_eq_ok_iff_holds
    {α : Type}
    {reader : Reader α}
    {wrap : α → Value}
    {emit : α → Emission}
    (law : ∀ content, reader input = .ok content rest ↔ (emit content).Spells input rest)
    (written : ∀ content, layout.write (wrap content) = emit content)
    (holds : layout.Holds value ∧ value.frozen = value ↔
      ∃ content, value = wrap content ∧ (emit content).IsComplete) :
    (wrap <$> reader) input = .ok value rest ↔
      (layout.Holds value ∧ value.frozen = value) ∧ (layout.write value).Spells input rest := by
  rw [map_eq_ok_iff, holds]
  apply Iff.intro
  · intro given
    rcases given with ⟨content, read, valueEq⟩
    subst valueEq
    have spelled := (law content).mp read
    refine ⟨⟨content, rfl, spelled.isComplete⟩, ?_⟩
    rw [written]
    exact spelled
  · intro given
    rcases given with ⟨⟨content, valueEq, _⟩, spelled⟩
    subst valueEq
    rw [written] at spelled
    exact ⟨content, (law content).mpr spelled, rfl⟩

/-- A layout without parts reads exactly the values that it writes, but no buffers. -/
theorem read_eq_ok_iff_of_isPlain
    (plain : layout.IsPlain)
    (paired : layout.IsPaired) :
    layout.read input = .ok value rest ↔
      (layout.Holds value ∧ value.frozen = value) ∧ (layout.write value).Spells input rest := by
  cases layout with
  | option element | sequence element | map keyLayout valueLayout => cases plain
  | bool =>
      apply map_eq_ok_iff_holds (fun _ => bool_eq_ok_iff) (fun _ => rfl)
      cases value <;> simp [Holds, Value.frozen]
  | integer type =>
      apply map_eq_ok_iff_holds (fun _ => integer_eq_ok_iff) (fun _ => rfl)
      cases value <;> simp [Holds, Value.frozen]
  | uleb128 =>
      have wrapped : Layout.uleb128.read input = .ok value rest ↔
          ((fun number : Nat => Value.int number) <$> Reader.length) input = .ok value rest := by
        simp [read]
      rw [wrapped]
      apply map_eq_ok_iff_holds (fun _ => length_eq_ok_iff) write_uleb128
      cases value <;> simp [Holds, Value.frozen]
  | text =>
      apply map_eq_ok_iff_holds (fun _ => text_eq_ok_iff) (fun _ => rfl)
      cases value <;> simp [Holds, Value.frozen]
  | bytes =>
      apply map_eq_ok_iff_holds (fun _ => bytes_eq_ok_iff) write_bytes
      cases value <;> simp [Holds, Value.frozen]
  | raw size =>
      simp only [read, map_eq_ok_iff, octets_eq_ok_iff]
      cases value <;> simp [Holds, Value.frozen, write, Value.writeRaw]
  | struct kind =>
      cases kind with
      | address =>
          apply map_eq_ok_iff_holds (fun _ => Address.read_eq_ok_iff) (fun _ => rfl)
          cases value <;> simp [Holds, Value.frozen]
      | typeTag =>
          apply map_eq_ok_iff_holds (fun _ => TypeTag.read_eq_ok_iff) (fun _ => rfl)
          cases value <;> simp [Holds, Value.frozen, TypeTag.isComplete_write_iff]
      | structTag => cases paired

end Layout

end MoveClient
