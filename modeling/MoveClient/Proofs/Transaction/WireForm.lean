import MoveClient.Proofs.Wire.Value
import MoveClient.Transaction.Raw

/-!
Which transactions can be written.

Owns:
- `HasWireForm` of every part of a transaction, which says without writing it what the part may
  hold: integers that fit their fields, script arguments of their kinds, types without references
  and type parameters, and nothing that is too long for its length;
- the agreement of `write` with it.

Does not own: reading; `MoveClient.Proofs.Transaction.RoundTrip` continues with it.

The value of a script argument is looked at only as it is written. Whatever has a wire form of its
own stands in for an address, so an argument of the address kind may hold a type.
-/

namespace MoveClient

/-! ## Functions -/

def ModuleId.HasWireForm (module : ModuleId) : Prop :=
  (Emission.textOctets module.name).length ≤ maxLength

@[simp] theorem ModuleId.isComplete_write_iff {module : ModuleId} :
    module.write.IsComplete ↔ module.HasWireForm := by
  simp [write, HasWireForm]

/-- There are few enough types, and each of them can be written. -/
def TypeTag.AreArguments (tags : List TypeTag) : Prop :=
  tags.length ≤ maxLength ∧ ∀ tag ∈ tags, tag.HasWireForm

theorem TypeTag.areArguments_iff {tags : List TypeTag} :
    AreArguments tags ↔
      tags.length ≤ maxLength ∧ ∀ emission ∈ writeAll tags, emission.IsComplete := by
  rw [AreArguments, isComplete_writeAll_iff, haveWireForms_iff]

structure EntryFunction.HasWireForm (call : EntryFunction) : Prop where
  module : call.module.HasWireForm
  function : (Emission.textOctets call.function).length ≤ maxLength
  typeArguments : TypeTag.AreArguments call.typeArguments
  argumentCount : call.arguments.length ≤ maxLength
  arguments : ∀ octets ∈ call.arguments, octets.length ≤ maxLength

@[simp] theorem EntryFunction.isComplete_write_iff {call : EntryFunction} :
    call.write.IsComplete ↔ call.HasWireForm := by
  simp only [write, Emission.isComplete_append_iff, ModuleId.isComplete_write_iff,
    Emission.isComplete_text_iff, Emission.isComplete_sequence_iff, TypeTag.length_writeAll,
    ← TypeTag.areArguments_iff, List.length_map, List.forall_mem_map,
    Emission.isComplete_bytes_iff]
  constructor
  · rintro ⟨⟨⟨module, function⟩, typeArguments⟩, argumentCount, arguments⟩
    exact ⟨module, function, typeArguments, argumentCount, arguments⟩
  · rintro ⟨module, function, typeArguments, argumentCount, arguments⟩
    exact ⟨⟨⟨module, function⟩, typeArguments⟩, argumentCount, arguments⟩

/-! ## Scripts -/

/-- What can be written as a script argument: an integer in range, a truth value or a byte string,
as the kind has it, and in place of an address also a type. -/
def ScriptArgument.HasWireForm (argument : ScriptArgument) : Prop :=
  match argument.kind.layout, argument.value with
  | .integer type, value => value.IsIntegerOf type
  | .bool, .bool _ => True
  | .bytes, .bytes octets | .bytes, .buffer octets => octets.length ≤ maxLength
  | .struct _, .address _ => True
  | .struct _, .type tag => tag.HasWireForm
  | _, _ => False

theorem ScriptArgumentKind.variant_holds (kind : ScriptArgumentKind) :
    IntegerType.u8.Holds kind.variant := by
  cases kind <;> decide

@[simp] theorem ScriptArgument.isComplete_write_iff {argument : ScriptArgument} :
    argument.write.IsComplete ↔ argument.HasWireForm := by
  obtain ⟨kind, value⟩ := argument
  simp only [write, Emission.isComplete_append_iff, Emission.isComplete_integer_iff,
    kind.variant_holds, true_and, HasWireForm]
  cases kind with
  | bool => cases value <;> simp [ScriptArgumentKind.layout, Layout.write, Value.writeBool]
  | address =>
      cases value <;>
        simp [ScriptArgumentKind.layout, Layout.write, Value.writeStruct,
          TypeTag.isComplete_write_iff]
  | octets | serialized =>
      cases value <;>
        simp [ScriptArgumentKind.layout, Layout.write, Value.writeBytes, Value.items?,
          Value.writeRaw]
  | u8 | u16 | u32 | u64 | u128 | u256 => exact Value.isComplete_writeInteger_iff

structure Script.HasWireForm (script : Script) : Prop where
  code : script.code.length ≤ maxLength
  typeArguments : TypeTag.AreArguments script.typeArguments
  argumentCount : script.arguments.length ≤ maxLength
  arguments : ∀ argument ∈ script.arguments, argument.HasWireForm

@[simp] theorem Script.isComplete_write_iff {script : Script} :
    script.write.IsComplete ↔ script.HasWireForm := by
  simp only [write, Emission.isComplete_append_iff, Emission.isComplete_bytes_iff,
    Emission.isComplete_sequence_iff, TypeTag.length_writeAll, ← TypeTag.areArguments_iff,
    List.length_map, List.forall_mem_map, ScriptArgument.isComplete_write_iff]
  constructor
  · rintro ⟨⟨code, typeArguments⟩, argumentCount, arguments⟩
    exact ⟨code, typeArguments, argumentCount, arguments⟩
  · rintro ⟨code, typeArguments, argumentCount, arguments⟩
    exact ⟨⟨code, typeArguments⟩, argumentCount, arguments⟩

/-! ## Payloads -/

def Executable.HasWireForm : Executable → Prop
  | script code => code.HasWireForm
  | entryFunction call => call.HasWireForm
  | empty => True

@[simp] theorem Executable.isComplete_write_iff {executable : Executable} :
    executable.write.IsComplete ↔ executable.HasWireForm := by
  cases executable <;> simp [write, HasWireForm, maxLength]

/-- The address takes no room that could be missing; the nonce is an integer of 64 bits. -/
def ExtraConfig.HasWireForm (config : ExtraConfig) : Prop :=
  ∀ nonce ∈ config.nonce, nonce.IsIntegerOf .u64

@[simp] theorem ExtraConfig.isComplete_write_iff {config : ExtraConfig} :
    config.write.IsComplete ↔ config.HasWireForm := by
  simp [write, HasWireForm, maxLength]

def Payload.HasWireForm : Payload → Prop
  | .script code => code.HasWireForm
  | .entryFunction call => call.HasWireForm
  | .multisig proposal => ∀ call ∈ proposal.call, call.function.HasWireForm
  | .versioned body => body.executable.HasWireForm ∧ body.config.HasWireForm

@[simp] theorem Payload.isComplete_write_iff {payload : Payload} :
    payload.write.IsComplete ↔ payload.HasWireForm := by
  cases payload <;>
    simp [write, variant, HasWireForm, Multisig.write, MultisigCall.write, VersionedPayload.write,
      maxLength]

/-! ## Transactions -/

structure RawTransaction.HasWireForm (transaction : RawTransaction) : Prop where
  sequenceNumber : transaction.sequenceNumber.IsIntegerOf .u64
  payload : transaction.payload.HasWireForm
  maxGasAmount : transaction.maxGasAmount.IsIntegerOf .u64
  gasUnitPrice : transaction.gasUnitPrice.IsIntegerOf .u64
  expiration : transaction.expiration.IsIntegerOf .u64
  chainId : transaction.chainId.IsIntegerOf .u8

@[simp] theorem RawTransaction.isComplete_write_iff {transaction : RawTransaction} :
    transaction.write.IsComplete ↔ transaction.HasWireForm := by
  simp only [write, Emission.isComplete_append_iff, Address.isComplete_write, true_and,
    Value.isComplete_writeInteger_iff, Payload.isComplete_write_iff]
  constructor
  · rintro ⟨⟨⟨⟨⟨sequenceNumber, payload⟩, maxGasAmount⟩, gasUnitPrice⟩, expiration⟩, chainId⟩
    exact ⟨sequenceNumber, payload, maxGasAmount, gasUnitPrice, expiration, chainId⟩
  · rintro ⟨sequenceNumber, payload, maxGasAmount, gasUnitPrice, expiration, chainId⟩
    exact ⟨⟨⟨⟨⟨sequenceNumber, payload⟩, maxGasAmount⟩, gasUnitPrice⟩, expiration⟩, chainId⟩

/-- The transaction can be written, and the other accounts can be counted. -/
def Signable.HasWireForm (signable : Signable) : Prop :=
  signable.transaction.HasWireForm ∧ signable.secondary.length ≤ maxLength

@[simp] theorem Signable.isComplete_write_iff {signable : Signable} :
    signable.write.IsComplete ↔ signable.HasWireForm := by
  have formHolds : IntegerType.u8.Holds 0 ∧ IntegerType.u8.Holds 1 := by decide
  cases signable <;> simp [write, HasWireForm, transaction, secondary, formHolds]

end MoveClient
