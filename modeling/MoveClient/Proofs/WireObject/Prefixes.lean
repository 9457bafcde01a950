import MoveClient.Proofs.Transaction.Decoding
import MoveClient.Proofs.Transaction.SignedRoundTrip
import MoveClient.WireObject.Reader

/-!
Wire forms of objects are prefix free.

Owns:
- that every type of objects has a local reader;
- that an object is read from the octets in front alone, and from no octets fewer.

Does not own: what the readers complain about when the octets are wrong.
-/

namespace MoveClient

open Reader

theorem AuthenticationKey.read_isLocal : read.IsLocal := by
  apply (octets_isDecoder 32).isLocal.bind
  intro spelled
  cases ofBytes spelled with
  | ok key => exact (isDecoder_pure key).isLocal
  | error error => exact isLocal_throw error

theorem StructTag.read_isDecoder : read.IsDecoder := by
  apply Address.read_isDecoder.bind
  intro address
  apply text_isDecoder.bind
  intro module
  apply text_isDecoder.bind
  intro name
  exact (sequence_isDecoder TypeTag.read_isDecoder).bind fun typeArguments => isDecoder_pure _

namespace WireObject

theorem placeholder_isLocal (what : Placeholder) : (placeholder what).IsLocal := by
  cases what with
  | keylessKey | federatedKeylessKey | keylessSignature | webAuthnSignature =>
      exact isLocal_throw _

theorem readProofContent_isLocal (variant : UInt8) : (readProofContent variant).IsLocal :=
  (AccountAuthenticator.read_isDecoder.isLocal.map _).behind ⟨1, 0, rfl⟩ variant

theorem readAuthenticatorContent_isLocal (variant : UInt8) :
    (readAuthenticatorContent variant).IsLocal :=
  (Authenticator.read_isDecoder.isLocal.map _).behind ⟨1, 0, rfl⟩ variant

theorem keyReaders_areLocal (scheme : KeyScheme) :
    ∀ entry ∈ keyReaders scheme, entry.2.IsLocal := by
  simp only [keyReaders, List.forall_mem_cons]
  refine ⟨?_, ?_, ?_, nofun⟩
  · exact (PrivateKey.read_isLocal scheme).map _
  · exact (SingleKey.read_isDecoder scheme).isLocal.map _
  · exact (SingleSignature.read_isDecoder scheme).isLocal.map _

theorem readers_areLocal : ∀ entry ∈ readers, entry.2.IsLocal := by
  simp only [readers, List.forall_mem_append, List.forall_mem_cons]
  refine ⟨⟨⟨?_, ?_, ?_, ?_, ?_, ?_, ?_, ?_, ?_, ?_, ?_, ?_, ?_, ?_, ?_, ?_, ?_, ?_, ?_, ?_, ?_, ?_,
    ?_, ?_, ?_, ?_, ?_, ?_, ?_, ?_, ?_, ?_, ?_, ?_, ?_, ?_, ?_, ?_, ?_, nofun⟩, ?_⟩, ?_⟩
  · exact Address.read_isDecoder.isLocal.map _
  · exact AuthenticationKey.read_isLocal.map _
  · exact TypeTag.read_isDecoder.isLocal.map _
  · exact StructTag.read_isDecoder.isLocal.map _
  · exact TypeTag.read_isDecoder.isLocal.map _
  · exact AccountAuthenticator.read_isDecoder.isLocal.map _
  · exact Authenticator.read_isDecoder.isLocal.map _
  · exact Payload.read_isDecoder.isLocal.map _
  · exact Script.read_isDecoder.isLocal.map _
  · exact ScriptArgument.read_isDecoder.isLocal.map _
  · exact EntryFunction.read_isDecoder.isLocal.map _
  · exact ModuleId.read_isDecoder.isLocal.map _
  · exact Multisig.read_isDecoder.isLocal.map _
  · exact MultisigCall.read_isDecoder.isLocal.map _
  · exact Executable.read_isDecoder.isLocal.map _
  · exact ExtraConfig.read_isDecoder.isLocal.map _
  · exact VersionedPayload.read_isDecoder.isLocal.map _
  · exact RawTransaction.read_isDecoder.isLocal.map _
  · exact Signable.readExtended_isDecoder.isLocal.map _
  · exact SignedTransaction.read_isDecoder.isLocal.map _
  · exact isLocal_throw _
  · exact MultiEd25519Key.read_isDecoder.isLocal.map _
  · exact MultiEd25519Signature.read_isDecoder.isLocal.map _
  · exact SingleKey.readWrapped_isDecoder.isLocal.map _
  · exact WrappedSignature.read_isDecoder.isLocal.map _
  · exact MultiKey.read_isDecoder.isLocal.map _
  · exact MultiKeySignature.read_isDecoder.isLocal.map _
  · exact placeholder_isLocal _
  · exact placeholder_isLocal _
  · exact placeholder_isLocal _
  · exact placeholder_isLocal _
  · exact readProofContent_isLocal 0
  · exact readProofContent_isLocal 1
  · exact readProofContent_isLocal 2
  · exact readProofContent_isLocal 3
  · exact readProofContent_isLocal 4
  · exact readAuthenticatorContent_isLocal 2
  · exact readAuthenticatorContent_isLocal 3
  · exact readAuthenticatorContent_isLocal 4
  · intro entry isEntry
    obtain ⟨scheme, _, ofScheme⟩ := List.mem_flatMap.mp isEntry
    exact keyReaders_areLocal scheme entry ofScheme
  · intro entry isEntry
    obtain ⟨kind, _, entryEq⟩ := List.mem_map.mp isEntry
    subst entryEq
    exact (isDecoder_pure _).isLocal

/-- Wire forms are prefix free, and reading is local. The octets that an object was read from give
the same object whatever follows them. Of fewer octets than those every reader says that the input
has ended. -/
theorem readers_prefix_free
    (entry : String × Reader WireObject)
    (isEntry : entry ∈ readers)
    (input rest : Bytes)
    (object : WireObject)
    (read : entry.2 input = .ok object rest) :
    ∃ taken, input = taken ++ rest ∧
      (∀ suffix, entry.2 (taken ++ suffix) = .ok object suffix) ∧
      ∀ first missing, taken = first ++ missing → missing ≠ [] →
        ∃ requested found, entry.2 first = .error (.codec (.endOfInput requested found)) [] := by
  obtain ⟨taken, inputEq, takes⟩ := readers_areLocal entry isEntry input object rest read
  exact ⟨taken, inputEq, takes.whole, takes.cut⟩

/-- The octets of a shared call which are not the ones that it is written as. -/
theorem readers_prefix_free_sharedCall :
    let reader : Reader WireObject := signed <$> SignedTransaction.read
    let taken := SignedTransaction.sharedCallTaken.flatten
    let object := signed SignedTransaction.sharedCall.decoded
    ("SignedTransaction", reader) ∈ readers ∧ reader (taken ++ [9]) = .ok object [9] ∧
      (∀ suffix, reader (taken ++ suffix) = .ok object suffix) ∧
      ∀ first missing, taken = first ++ missing → missing ≠ [] →
        ∃ requested found, reader first = .error (.codec (.endOfInput requested found)) [] := by
  intro reader taken object
  have isEntry : ("SignedTransaction", reader) ∈ readers := by
    simp [readers, reader]
  have read : reader (taken ++ [9]) = .ok object [9] :=
    Reader.map_eq_ok_iff.mpr ⟨_, SignedTransaction.read_sharedCallTaken [9], rfl⟩
  obtain ⟨found, inputEq, whole, cut⟩ := readers_prefix_free _ isEntry _ _ object read
  have takenEq := List.append_cancel_right inputEq
  subst takenEq
  exact ⟨isEntry, read, whole, cut⟩

end WireObject

end MoveClient
