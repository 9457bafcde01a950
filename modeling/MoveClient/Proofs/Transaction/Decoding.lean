import MoveClient.Proofs.Key.Decoding
import MoveClient.Proofs.Wire.Nesting
import MoveClient.Transaction.Signed

/-!
Transactions are read by decoders.

Owns:
- that payloads, proofs and transactions, and all their parts, are read by decoders;
- that reading a signed transaction comes to an end on every input, with the transaction or with a
  failure of decoding.

Does not own: which octets spell a transaction, see `MoveClient.Proofs.Transaction.RoundTrip`.
-/

namespace MoveClient

open Reader

/-! ## Payloads -/

theorem ModuleId.read_isDecoder : read.IsDecoder := by
  apply Address.read_isDecoder.bind
  intro address
  exact text_isDecoder.bind fun name => isDecoder_pure _

theorem EntryFunction.read_isDecoder : read.IsDecoder := by
  apply ModuleId.read_isDecoder.bind
  intro module
  apply text_isDecoder.bind
  intro function
  apply (sequence_isDecoder TypeTag.read_isDecoder).bind
  intro typeArguments
  exact (sequence_isDecoder bytes_isDecoder).bind fun arguments => isDecoder_pure _

namespace ScriptArgument

theorem layout_read_isDecoder (kind : ScriptArgumentKind) : kind.layout.read.IsDecoder := by
  cases kind with
  | u8 | u64 | u128 | u16 | u32 | u256 => exact (integer_isDecoder _).map _
  | address => exact Address.read_isDecoder.map _
  | octets | serialized => exact bytes_isDecoder.map _
  | bool => exact bool_isDecoder.map _

theorem read_isDecoder : read.IsDecoder := by
  apply octet_isDecoder.bind
  intro variant
  cases ScriptArgumentKind.ofVariant? variant.toNat with
  | some kind => exact (layout_read_isDecoder kind).bind fun value => isDecoder_pure _
  | none => exact isDecoder_throw trivial

end ScriptArgument

theorem Script.read_isDecoder : read.IsDecoder := by
  apply bytes_isDecoder.bind
  intro code
  apply (sequence_isDecoder TypeTag.read_isDecoder).bind
  intro typeArguments
  exact (sequence_isDecoder ScriptArgument.read_isDecoder).bind fun arguments => isDecoder_pure _

theorem MultisigCall.read_isDecoder : read.IsDecoder := by
  apply length_isDecoder.bind
  intro variant
  exact isDecoder_ite (EntryFunction.read_isDecoder.bind fun function => isDecoder_pure _)
    (isDecoder_throw trivial)

theorem Multisig.read_isDecoder : read.IsDecoder := by
  apply Address.read_isDecoder.bind
  intro address
  exact (option_isDecoder MultisigCall.read_isDecoder).bind fun call => isDecoder_pure _

theorem Executable.read_isDecoder : read.IsDecoder := by
  apply length_isDecoder.bind
  intro variant
  split
  case h_1 => exact Script.read_isDecoder.map _
  case h_2 => exact EntryFunction.read_isDecoder.map _
  case h_3 => exact isDecoder_pure _
  case h_4 => exact isDecoder_throw trivial

theorem ExtraConfig.read_isDecoder : read.IsDecoder := by
  apply length_isDecoder.bind
  intro version
  refine isDecoder_ite ?_ (isDecoder_throw trivial)
  apply (option_isDecoder Address.read_isDecoder).bind
  intro multisigAddress
  exact (option_isDecoder (integer_isDecoder .u64)).bind fun nonce => isDecoder_pure _

theorem VersionedPayload.read_isDecoder : read.IsDecoder := by
  apply length_isDecoder.bind
  intro version
  refine isDecoder_ite ?_ (isDecoder_throw trivial)
  apply Executable.read_isDecoder.bind
  intro executable
  exact ExtraConfig.read_isDecoder.bind fun config => isDecoder_pure _

theorem Payload.read_isDecoder : read.IsDecoder := by
  apply length_isDecoder.bind
  intro variant
  split
  case h_1 => exact Script.read_isDecoder.map _
  case h_2 => exact isDecoder_throw trivial
  case h_3 => exact EntryFunction.read_isDecoder.map _
  case h_4 => exact Multisig.read_isDecoder.map _
  case h_5 => exact VersionedPayload.read_isDecoder.map _
  case h_6 => exact isDecoder_throw trivial

/-! ## What is signed -/

theorem RawTransaction.read_isDecoder : read.IsDecoder := by
  apply Address.read_isDecoder.bind
  intro sender
  apply (integer_isDecoder .u64).bind
  intro sequenceNumber
  apply Payload.read_isDecoder.bind
  intro payload
  apply (integer_isDecoder .u64).bind
  intro maxGasAmount
  apply (integer_isDecoder .u64).bind
  intro gasUnitPrice
  apply (integer_isDecoder .u64).bind
  intro expiration
  exact (integer_isDecoder .u8).bind fun chainId => isDecoder_pure _

theorem Signable.readExtended_isDecoder : readExtended.IsDecoder := by
  apply octet_isDecoder.bind
  intro form
  refine isDecoder_ite ?multiAgent (isDecoder_ite ?feePayer (isDecoder_throw trivial))
  case multiAgent =>
    apply RawTransaction.read_isDecoder.bind
    intro raw
    exact (sequence_isDecoder Address.read_isDecoder).bind fun others => isDecoder_pure _
  case feePayer =>
    apply RawTransaction.read_isDecoder.bind
    intro raw
    apply (sequence_isDecoder Address.read_isDecoder).bind
    intro others
    exact Address.read_isDecoder.bind fun payer => isDecoder_pure _

/-! ## Proofs -/

namespace AccountAuthenticator

theorem readOctets_isDecoder
    (size : Nat)
    (part : KeyPart) :
    (readOctets size part).IsDecoder :=
  bytes_isDecoder.bind_computed (Octets.expect_onlyOfDecoding size .ed25519 part)
    fun spelled => by cases Octets.expect size .ed25519 part spelled <;> rfl

theorem readEd25519_isDecoder : readEd25519.IsDecoder := by
  apply (readOctets_isDecoder 32 .publicKey).bind
  intro key
  exact (readOctets_isDecoder 64 .signature).bind fun signature => isDecoder_pure _

theorem readMultiEd25519_isDecoder : readMultiEd25519.IsDecoder := by
  apply MultiEd25519Key.read_isDecoder.bind
  intro key
  exact MultiEd25519Signature.read_isDecoder.bind fun signature => isDecoder_pure _

theorem read_isDecoder : read.IsDecoder := by
  apply length_isDecoder.bind
  intro variant
  split
  case h_1 => exact readEd25519_isDecoder.map _
  case h_2 => exact readMultiEd25519_isDecoder.map _
  case h_3 =>
    apply SingleKey.readWrapped_isDecoder.bind
    intro key
    exact WrappedSignature.read_isDecoder.bind fun signature => isDecoder_pure _
  case h_4 =>
    apply MultiKey.read_isDecoder.bind
    intro key
    exact MultiKeySignature.read_isDecoder.bind fun signature => isDecoder_pure _
  case h_5 => exact isDecoder_pure _
  case h_6 => exact isDecoder_throw trivial

end AccountAuthenticator

namespace Authenticator

theorem readSecondary_isDecoder : readSecondary.IsDecoder := by
  apply (sequence_isDecoder Address.read_isDecoder).bind
  intro addresses
  apply (sequence_isDecoder AccountAuthenticator.read_isDecoder).bind
  intro proofs
  exact isDecoder_ite (isDecoder_pure _) (isDecoder_throw trivial)

theorem read_isDecoder : read.IsDecoder := by
  apply length_isDecoder.bind
  intro variant
  split
  case h_1 => exact AccountAuthenticator.readEd25519_isDecoder.map _
  case h_2 => exact AccountAuthenticator.readMultiEd25519_isDecoder.map _
  case h_3 =>
    apply AccountAuthenticator.read_isDecoder.bind
    intro proof
    exact readSecondary_isDecoder.bind fun secondary => isDecoder_pure _
  case h_4 =>
    apply AccountAuthenticator.read_isDecoder.bind
    intro proof
    apply readSecondary_isDecoder.bind
    intro secondary
    apply Address.read_isDecoder.bind
    intro payerAddress
    exact AccountAuthenticator.read_isDecoder.bind fun payerProof => isDecoder_pure _
  case h_5 => exact AccountAuthenticator.read_isDecoder.map _
  case h_6 => exact isDecoder_throw trivial

end Authenticator

/-! ## Signed transactions -/

namespace SignedTransaction

theorem read_isDecoder : read.IsDecoder := by
  apply RawTransaction.read_isDecoder.bind
  intro transaction
  exact Authenticator.read_isDecoder.bind fun authenticator => isDecoder_pure _

/-- The readers of everything that a signed transaction holds any number of: type arguments,
encoded arguments, script arguments, signers and their proofs, keys and their signatures. -/
def elementReaders : List (Σ α : Type, Reader α) :=
  [⟨TypeTag, TypeTag.read⟩,
    ⟨Bytes, Reader.bytes⟩,
    ⟨ScriptArgument, ScriptArgument.read⟩,
    ⟨Address, Address.read⟩,
    ⟨AccountAuthenticator, AccountAuthenticator.read⟩,
    ⟨SingleKey, SingleKey.readWrapped⟩,
    ⟨WrappedSignature, WrappedSignature.read⟩]

theorem elementReaders_progress : ∀ element ∈ elementReaders, element.2.Progresses := by
  -- Each of them is a decoder that wants an octet.
  simp only [elementReaders, List.forall_mem_cons]
  refine ⟨?_, ?_, ?_, ?_, ?_, ?_, ?_, nofun⟩
  · exact TypeTag.read_isDecoder.isLocal.progresses ⟨1, 0, rfl⟩
  · exact bytes_isDecoder.isLocal.progresses ⟨1, 0, rfl⟩
  · exact ScriptArgument.read_isDecoder.isLocal.progresses ⟨1, 0, rfl⟩
  · exact Address.read_isDecoder.isLocal.progresses ⟨32, 0, rfl⟩
  · exact AccountAuthenticator.read_isDecoder.isLocal.progresses ⟨1, 0, rfl⟩
  · exact SingleKey.readWrapped_isDecoder.isLocal.progresses ⟨1, 0, rfl⟩
  · exact WrappedSignature.read_isDecoder.isLocal.progresses ⟨1, 0, rfl⟩

/-- Reading a signed transaction comes to an end on every input, with the transaction or with a
failure of decoding. Nested types are read by a recursion that has exactly one result. Whatever
count is declared for the values of a part, each of them takes an octet at least, so that after one
round more than there are octets the rest of the count makes no difference. -/
theorem read_total :
    (∀ input : Bytes,
      (∃ signed rest, read input = .ok signed rest) ∨
        ∃ error left, read input = .error error left ∧ error.IsOfDecoding) ∧
    (∀ reader : Reader TypeTag, reader = TypeTag.readWith reader ↔ reader = TypeTag.read) ∧
    (∀ element ∈ elementReaders,
      element.2.Progresses ∧ ∀ (count : Nat) (input : Bytes),
        element.2.rounds count input ≤ input.length + 1 ∧
          many element.2 (element.2.rounds count input) input = many element.2 count input) := by
  refine ⟨?_, fun reader => TypeTag.eq_readWith_iff, ?_⟩
  · intro input
    cases result : read input with
    | ok signed rest => exact .inl ⟨signed, rest, rfl⟩
    | error error left => exact .inr ⟨error, left, rfl, read_isDecoder.fault input error left result⟩
  · intro element isElement
    have progresses := elementReaders_progress element isElement
    refine ⟨progresses, ?_⟩
    intro count input
    exact ⟨progresses.rounds_le count input, many_rounds element.2 count input⟩

/-- As many types as can be declared, with two of them there. -/
theorem read_total_declaredTypes :
    (⟨TypeTag, TypeTag.read⟩ : Σ α : Type, Reader α) ∈ elementReaders ∧
      TypeTag.read.rounds maxLength [0, 0] = 3 ∧
      many TypeTag.read 3 [0, 0] = many TypeTag.read maxLength [0, 0] := by
  have isElement : (⟨TypeTag, TypeTag.read⟩ : Σ α : Type, Reader α) ∈ elementReaders :=
    List.mem_cons_self
  have roundsEq : TypeTag.read.rounds maxLength [0, 0] = 3 := rfl
  have settled := ((read_total.2.2 _ isElement).2 maxLength [0, 0]).2
  rw [roundsEq] at settled
  exact ⟨isElement, roundsEq, settled⟩

end SignedTransaction

end MoveClient
