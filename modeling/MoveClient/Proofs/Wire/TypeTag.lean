import MoveClient.Proofs.Wire.Reading
import MoveClient.TypeTag.Codec

/-!
The wire forms of addresses and types.

Owns:
- `TypeTag.HasWireForm`, which says of a type, without writing it, that it can be written;
- the agreement of `TypeTag.write` with it;
- that addresses and types are read exactly where they are written.

The reader of types is bounded by a depth. Every type takes at least one octet, so the law holds
from every input that is shorter than the depth, and by induction for all that is nested.
-/

namespace MoveClient

open Reader

namespace Address

@[simp] theorem isComplete_write (address : Address) : address.write.IsComplete :=
  Emission.isComplete_complete _

@[simp] theorem read_eq_ok_iff
    {address : Address}
    {input rest : Bytes} :
    read input = .ok address rest ↔ address.write.Spells input rest := by
  simp only [read, write, bind_eq_ok_iff, octets_eq_ok_iff, Emission.spells_complete_iff]
  constructor
  · rintro ⟨octets, middle, ⟨lengths, rfl⟩, built⟩
    rw [ofBytes?, dif_pos lengths, pure_eq_ok_iff] at built
    obtain ⟨rfl, rfl⟩ := built
    rfl
  · rintro rfl
    refine ⟨address.bytes, rest, ⟨address.length_eq, rfl⟩, ?_⟩
    rw [ofBytes?_bytes, pure_eq_ok_iff]
    exact ⟨rfl, rfl⟩

end Address

theorem PrimitiveType.ofVariant?_eq_some_iff
    {number : Nat}
    {type : PrimitiveType} :
    ofVariant? number = some type ↔ type.variant = number := by
  constructor
  · intro found
    simpa using List.find?_some found
  · rintro rfl
    exact ofVariant?_variant type

namespace TypeTag

mutual

/-- No reference and no type parameter occurs in the type, at any depth, and its names and lists
are short enough to stand behind their lengths. -/
def HasWireForm : TypeTag → Prop
  | .primitive _ => True
  | .vector element => element.HasWireForm
  | .struct _ module name arguments =>
      (Emission.textOctets module).length ≤ maxLength ∧
        (Emission.textOctets name).length ≤ maxLength ∧
        arguments.length ≤ maxLength ∧ HaveWireForms arguments
  | .generic _ | .reference _ => False

/-- Every type of the list has a wire form. -/
def HaveWireForms : List TypeTag → Prop
  | [] => True
  | first :: rest => first.HasWireForm ∧ HaveWireForms rest

end

theorem haveWireForms_iff {tags : List TypeTag} :
    HaveWireForms tags ↔ ∀ tag ∈ tags, tag.HasWireForm := by
  induction tags with
  | nil => simp [HaveWireForms]
  | cons first rest inductionHypothesis => simp [HaveWireForms, inductionHypothesis]

theorem writeAll_eq_map (tags : List TypeTag) : writeAll tags = tags.map write := by
  induction tags with
  | nil => rfl
  | cons first rest inductionHypothesis => simp [writeAll, inductionHypothesis]

@[simp] theorem length_writeAll (tags : List TypeTag) : (writeAll tags).length = tags.length := by
  simp [writeAll_eq_map]

/-- Every variant number is far below the bound of lengths. -/
@[simp] theorem variant_le_maxLength (type : PrimitiveType) : type.variant ≤ maxLength := by
  rcases type with _ | ⟨_ | _, _ | _ | _ | _ | _ | _⟩ | _ | _ <;> decide

theorem vectorVariant_le_maxLength : 6 ≤ maxLength := by decide

theorem structVariant_le_maxLength : 7 ≤ maxLength := by decide

mutual

/-- A type can be written exactly if it has a wire form. -/
theorem isComplete_write_iff : (tag : TypeTag) → (tag.write.IsComplete ↔ tag.HasWireForm)
  | .primitive type => by simp [write, HasWireForm]
  | .vector element => by
      have elementComplete := isComplete_write_iff element
      simp [write, HasWireForm, elementComplete, vectorVariant_le_maxLength]
  | .struct address module name arguments => by
      have argumentsComplete := isComplete_writeAll_iff arguments
      simp only [write, HasWireForm, Emission.isComplete_append_iff, Address.isComplete_write,
        Emission.isComplete_length_iff, structVariant_le_maxLength, Emission.isComplete_text_iff,
        Emission.isComplete_sequence_iff, length_writeAll, argumentsComplete, true_and, and_assoc]
  | .generic _ | .reference _ => by simp [write, HasWireForm]

theorem isComplete_writeAll_iff :
    (tags : List TypeTag) →
      ((∀ emission ∈ writeAll tags, emission.IsComplete) ↔ HaveWireForms tags)
  | [] => by simp [writeAll, HaveWireForms]
  | first :: rest => by
      have firstComplete := isComplete_write_iff first
      have restComplete := isComplete_writeAll_iff rest
      simp [writeAll, HaveWireForms, firstComplete, restComplete]

end

/-! ## Reading -/

theorem ofVariant?_eq_none_of_nested
    {number : Nat}
    (nested : number = 6 ∨ number = 7) :
    PrimitiveType.ofVariant? number = none := by
  rcases nested with rfl | rfl <;> rfl

theorem length_lt_of_spells_length
    {number : Nat}
    {input rest : Bytes}
    (spelled : (Emission.length number).Spells input rest) :
    rest.length < input.length := by
  obtain ⟨octets, emitted, rfl⟩ := spelled
  have nonempty : 0 < (Emission.lengthOctets maxLengthOctets number).length := by
    simp only [maxLengthOctets, Emission.lengthOctets]
    split <;> simp
  unfold Emission.length at emitted
  split at emitted
  · cases emitted
    rw [List.length_append]
    omega
  · cases emitted

/-- The parts of a structure type are read exactly where they are written, if its arguments are. -/
theorem structParts_eq_ok_iff
    {α : Type}
    {argument : Reader TypeTag}
    {next : Address → String → String → List TypeTag → Reader α}
    {limit : Nat}
    (inverts : ∀ input : Bytes, input.length ≤ limit →
      argument.Inverts (fun _ => True) write input)
    {value : α}
    {input rest : Bytes}
    (short : input.length ≤ limit) :
    (do
      let address ← Address.read
      let module ← Reader.text
      let name ← Reader.text
      let arguments ← Reader.sequence argument
      next address module name arguments) input = .ok value rest ↔
      ∃ address module name arguments middle,
        (address.write ++ .text module ++ .text name ++ .sequence (writeAll arguments)).Spells
          input middle ∧ next address module name arguments middle = .ok value rest := by
  simp only [bind_eq_ok_iff, Address.read_eq_ok_iff, text_eq_ok_iff, writeAll_eq_map,
    Emission.spells_append_iff]
  constructor
  · rintro ⟨address, afterAddress, addressSpelled, module, afterModule, moduleSpelled, name,
      afterName, nameSpelled, arguments, middle, argumentsRead, valueRead⟩
    have argumentsShort : afterName.length ≤ limit := by
      have := addressSpelled.length_le
      have := moduleSpelled.length_le
      have := nameSpelled.length_le
      omega
    have argumentsSpelled := ((sequence_inverts inverts argumentsShort _ _).mp argumentsRead).2
    exact ⟨address, module, name, arguments, middle, ⟨afterName, ⟨afterModule, ⟨afterAddress,
      addressSpelled, moduleSpelled⟩, nameSpelled⟩, argumentsSpelled⟩, valueRead⟩
  · rintro ⟨address, module, name, arguments, middle, ⟨afterName, ⟨afterModule, ⟨afterAddress,
      addressSpelled, moduleSpelled⟩, nameSpelled⟩, argumentsSpelled⟩, valueRead⟩
    have argumentsShort : afterName.length ≤ limit := by
      have := addressSpelled.length_le
      have := moduleSpelled.length_le
      have := nameSpelled.length_le
      omega
    have argumentsRead := (sequence_inverts inverts argumentsShort arguments middle).mpr
      ⟨fun _ _ => trivial, argumentsSpelled⟩
    exact ⟨address, afterAddress, addressSpelled, module, afterModule, moduleSpelled, name,
      afterName, nameSpelled, arguments, middle, argumentsRead, valueRead⟩

/-- A structure type is its variant number and its parts. -/
theorem spells_struct_iff
    {address : Address}
    {module name : String}
    {arguments : List TypeTag}
    {input rest : Bytes} :
    (struct address module name arguments).write.Spells input rest ↔
      ∃ middle, (Emission.length 7).Spells input middle ∧
        (address.write ++ .text module ++ .text name ++ .sequence (writeAll arguments)).Spells
          middle rest := by
  simp only [write, Emission.spells_append_iff]
  constructor
  · rintro ⟨afterName, ⟨afterModule, ⟨afterAddress, ⟨middle, counted, addressSpelled⟩,
      moduleSpelled⟩, nameSpelled⟩, argumentsSpelled⟩
    exact ⟨middle, counted, afterName, ⟨afterModule, ⟨afterAddress, addressSpelled,
      moduleSpelled⟩, nameSpelled⟩, argumentsSpelled⟩
  · rintro ⟨middle, counted, afterName, ⟨afterModule, ⟨afterAddress, addressSpelled,
      moduleSpelled⟩, nameSpelled⟩, argumentsSpelled⟩
    exact ⟨afterName, ⟨afterModule, ⟨afterAddress, ⟨middle, counted, addressSpelled⟩,
      moduleSpelled⟩, nameSpelled⟩, argumentsSpelled⟩

/-- With more depth than octets a type is read exactly where it is written. -/
theorem readNested_inverts
    {depth : Nat}
    {input : Bytes}
    (short : input.length < depth) :
    (readNested depth).Inverts (fun _ => True) write input := by
  induction depth generalizing input with
  | zero => exact absurd short (Nat.not_lt_zero _)
  | succ depth inductionHypothesis =>
      -- What is behind the variant number is shorter than the depth that is left.
      have nestedInverts {number : Nat} {middle : Bytes}
          (counted : (Emission.length number).Spells input middle)
          (behind : Bytes) (behindShort : behind.length ≤ middle.length) :
          (readNested depth).Inverts (fun _ => True) write behind := by
        have consumed := length_lt_of_spells_length counted
        exact inductionHypothesis (by omega)
      intro tag rest
      simp only [readNested, bind_eq_ok_iff, length_eq_ok_iff, true_and]
      constructor
      · rintro ⟨variant, middle, counted, read⟩
        cases found : PrimitiveType.ofVariant? variant with
        | some type =>
            simp only [found, pure_eq_ok_iff] at read
            obtain ⟨rfl, rfl⟩ := read
            rw [← PrimitiveType.ofVariant?_eq_some_iff.mp found] at counted
            exact counted
        | none =>
            simp only [found] at read
            split at read
            case isTrue vectorVariant =>
              subst vectorVariant
              obtain ⟨element, end_, elementRead, tagEq⟩ := bind_eq_ok_iff.mp read
              obtain ⟨rfl, rfl⟩ := pure_eq_ok_iff.mp tagEq
              have elementSpelled :=
                ((nestedInverts counted middle (Nat.le_refl _) _ _).mp elementRead).2
              exact Emission.spells_append_iff.mpr ⟨middle, counted, elementSpelled⟩
            case isFalse notVector =>
              split at read
              case isTrue structVariant =>
                subst structVariant
                obtain ⟨address, module, name, arguments, end_, spelled, tagEq⟩ :=
                  (structParts_eq_ok_iff (nestedInverts counted) (Nat.le_refl _)).mp read
                obtain ⟨rfl, rfl⟩ := pure_eq_ok_iff.mp tagEq
                exact spells_struct_iff.mpr ⟨middle, counted, spelled⟩
              case isFalse => exact absurd read throw_ne_ok
      · intro spelled
        cases tag with
        | primitive type =>
            refine ⟨type.variant, rest, spelled, ?_⟩
            simp only [PrimitiveType.ofVariant?_variant, pure_eq_ok_iff, and_self]
        | vector element =>
            obtain ⟨middle, counted, elementSpelled⟩ := Emission.spells_append_iff.mp spelled
            have elementRead := (nestedInverts counted middle (Nat.le_refl _) _ _).mpr
              ⟨trivial, elementSpelled⟩
            refine ⟨6, middle, counted, ?_⟩
            rw [ofVariant?_eq_none_of_nested (.inl rfl)]
            simp only [if_true, bind_eq_ok_iff, pure_eq_ok_iff]
            exact ⟨element, rest, elementRead, rfl, rfl⟩
        | struct address module name arguments =>
            obtain ⟨middle, counted, partsSpelled⟩ := spells_struct_iff.mp spelled
            refine ⟨7, middle, counted, ?_⟩
            rw [ofVariant?_eq_none_of_nested (.inr rfl), if_neg (by decide), if_pos rfl]
            exact (structParts_eq_ok_iff (nestedInverts counted) (Nat.le_refl _)).mpr
              ⟨address, module, name, arguments, rest, partsSpelled,
                pure_eq_ok_iff.mpr ⟨rfl, rfl⟩⟩
        | generic | reference => exact absurd spelled (Emission.not_spells_fail _ _ _)

/-- A type is read exactly where it is written. -/
@[simp] theorem read_eq_ok_iff
    {tag : TypeTag}
    {input rest : Bytes} :
    read input = .ok tag rest ↔ tag.write.Spells input rest := by
  have inverts := readNested_inverts (Nat.lt_succ_self input.length) tag rest
  rwa [true_and] at inverts

end TypeTag

end MoveClient
