import MoveClient.Proofs.Transaction.Reading
import MoveClient.Proofs.Wire.Domain
import MoveClient.Transaction.MultisigAccount

/-!
Proposals of multisig accounts.

Owns:
- the calls that propose octets for an account, in full or by their digest;
- that a proposal in full, a proposal by hash and an execution nest the same octets of the call that
  is proposed, and that these octets are those of no other call.

Does not own: the reading and writing of calls.
-/

namespace MoveClient

variable {octets argument : Bytes} {account : Address} {function : String} {payload : Payload}

namespace MultisigAccount

/-! ## Calls that propose -/

/-- The module that multisig accounts are kept by. -/
def module : ModuleId :=
  ⟨.one, "multisig_account"⟩

theorem parse_moduleName : ModuleId.parse moduleName = .ok module :=
  rfl

/-- A call with an account and an encoded byte string. -/
def proposing (function : String) (account : Address) (argument : Bytes) : Payload :=
  .entryFunction ⟨module, function, [], [account.bytes, argument]⟩

/-- The second argument of a proposing call is the byte string that the octets are read from. -/
theorem call_eq_ok_iff :
    call function [addressArgument account, octetsArgument octets] = .ok payload ↔
      ∃ argument, Reader.bytes argument = .ok octets [] ∧
        payload = proposing function account argument := by
  have addressWritten : ((addressArgument account).1.write (addressArgument account).2).result =
      .ok account.bytes := rfl
  have octetsWritten : (octetsArgument octets).1.write (octetsArgument octets).2 =
      .bytes octets := Layout.write_bytes octets
  have argument_iff (argument : Bytes) : Reader.bytes argument = .ok octets [] ↔
      (Emission.bytes octets).result = .ok argument := by
    rw [Reader.bytes_eq_ok_iff, Emission.spells_nil_iff, Emission.result_eq_ok_iff]
  simp only [call, EntryFunction.natural, parse_moduleName, List.mapM_cons, List.mapM_nil,
    addressWritten, octetsWritten, argument_iff, Error.ok_bind]
  cases (Emission.bytes octets).result with
  | error error => simp [bind, Except.bind, Functor.map, Except.map]
  | ok argument =>
      simp [bind, Except.bind, Functor.map, Except.map, pure, Except.pure, proposing, eq_comm]

/-- Octets can be proposed if they are not too long for their length. -/
theorem exists_call_iff
    (function : String)
    (account : Address)
    (octets : Bytes) :
    (∃ payload, call function [addressArgument account, octetsArgument octets] = .ok payload) ↔
      octets.length ≤ maxLength := by
  simp only [call_eq_ok_iff, Reader.bytes_eq_ok_iff, Emission.spells_nil_iff]
  rw [← Emission.isComplete_bytes_iff]
  apply Iff.intro
  · intro given
    obtain ⟨_, argument, written, _⟩ := given
    exact ⟨argument, written⟩
  · intro given
    obtain ⟨argument, written⟩ := given
    exact ⟨_, argument, written, rfl⟩

/-! ## One proposal, three forms -/

variable {proposed : EntryFunction}

theorem createTransaction_eq_ok_iff
    (written : MultisigCall.write ⟨proposed⟩ = .complete octets) :
    createTransaction account ⟨proposed⟩ = .ok payload ↔
      ∃ argument, Reader.bytes argument = .ok octets [] ∧
        payload = proposing "create_transaction" account argument := by
  rw [createTransaction, written, ← call_eq_ok_iff]
  rfl

theorem createTransactionWithHash_eq_ok_iff
    (written : MultisigCall.write ⟨proposed⟩ = .complete octets) :
    createTransactionWithHash account ⟨proposed⟩ = .ok payload ↔
      ∃ argument, Reader.bytes argument = .ok (Sha3.hash octets) [] ∧
        payload = proposing "create_transaction_with_hash" account argument := by
  rw [createTransactionWithHash, MultisigCall.hash, written, ← call_eq_ok_iff]
  rfl

/-- An execution is written as its kind, the account, and the call behind the mark of one that is
there. -/
theorem write_execute
    (written : MultisigCall.write ⟨proposed⟩ = .complete octets) :
    (execute account (some proposed)).write = .complete (3 :: account.bytes ++ 1 :: octets) := by
  have callWritten : Emission.option (some (MultisigCall.write ⟨proposed⟩)) =
      .complete (1 :: octets) := by
    rw [written]
    rfl
  show Emission.length 3 ++ (account.write ++ .option (some (MultisigCall.write ⟨proposed⟩))) = _
  rw [callWritten]
  rfl

theorem read_execute
    (written : MultisigCall.write ⟨proposed⟩ = .complete octets)
    (rest : Bytes) :
    Payload.read (3 :: account.bytes ++ 1 :: octets ++ rest) =
      .ok (execute account (some proposed)) rest :=
  Payload.read_eq_ok_iff.mpr ⟨Payload.isDecoded_multisig _, _, write_execute written, rfl⟩

theorem read_proposed
    (written : MultisigCall.write ⟨proposed⟩ = .complete octets)
    (rest : Bytes) :
    MultisigCall.read (octets ++ rest) = .ok ⟨proposed⟩ rest :=
  MultisigCall.read_eq_ok_iff.mpr ⟨octets, written, rfl⟩

/-- A proposal in full carries the octets of the call as a byte string, one by hash carries their
digest, and an execution carries the octets themselves; the call is read from them again, and no
other call has them. A proposal in full is refused only if the octets are too long for a length. -/
theorem proposals_coincide
    (account : Address)
    (proposed : EntryFunction)
    (octets : Bytes)
    (written : MultisigCall.write ⟨proposed⟩ = .complete octets) :
    (∀ payload, createTransaction account ⟨proposed⟩ = .ok payload →
      ∃ argument, payload = proposing "create_transaction" account argument ∧
        Reader.bytes argument = .ok octets []) ∧
    ((∃ payload, createTransaction account ⟨proposed⟩ = .ok payload) ↔
      octets.length ≤ maxLength) ∧
    (∃ argument, createTransactionWithHash account ⟨proposed⟩ =
        .ok (proposing "create_transaction_with_hash" account argument) ∧
      Reader.bytes argument = .ok (Sha3.hash octets) []) ∧
    (execute account (some proposed)).write = .complete (3 :: account.bytes ++ 1 :: octets) ∧
    (∀ rest, MultisigCall.read (octets ++ rest) = .ok ⟨proposed⟩ rest) ∧
    (∀ rest, Payload.read (3 :: account.bytes ++ 1 :: octets ++ rest) =
      .ok (execute account (some proposed)) rest) ∧
    ∀ other, MultisigCall.write ⟨other⟩ = .complete octets → other = proposed := by
  refine ⟨?_, ?_, ?_, write_execute written, read_proposed written, read_execute written, ?_⟩
  · intro payload proposedInFull
    obtain ⟨argument, read, payloadEq⟩ := (createTransaction_eq_ok_iff written).mp proposedInFull
    exact ⟨argument, payloadEq, read⟩
  · rw [← exists_call_iff "create_transaction" account octets]
    simp only [createTransaction_eq_ok_iff written, call_eq_ok_iff]
  · have short : (Sha3.hash octets).length ≤ maxLength := by
      rw [Sha3.hash_length]
      decide
    obtain ⟨argument, spelled⟩ := Emission.isComplete_bytes_iff.mpr short
    have read := Reader.bytes_eq_ok_iff.mpr (Emission.spells_nil_iff.mpr spelled)
    exact ⟨argument, (createTransactionWithHash_eq_ok_iff written).mpr ⟨argument, read, rfl⟩, read⟩
  · intro other otherWritten
    have same := (read_proposed otherWritten []).symm.trans (read_proposed written [])
    cases same
    rfl

/-- The proposal of a call with one argument, of two octets. -/
theorem proposals_coincide_oneArgument :
    ∃ argument, createTransaction .one ⟨⟨⟨.zero, "m"⟩, "f", [.vector (.primitive .bool)], [[7, 8]]⟩⟩ =
        .ok (proposing "create_transaction" .one argument) ∧
      Reader.bytes argument = .ok
        (0 :: List.replicate 32 0 ++ [1, 109, 1, 102, 1, 6, 0, 1, 2, 7, 8]) [] := by
  have coincide := proposals_coincide .one ⟨⟨.zero, "m"⟩, "f", [.vector (.primitive .bool)], [[7, 8]]⟩
    (0 :: List.replicate 32 0 ++ [1, 109, 1, 102, 1, 6, 0, 1, 2, 7, 8]) rfl
  obtain ⟨payload, proposedInFull⟩ := coincide.2.1.mpr (by decide)
  obtain ⟨argument, rfl, read⟩ := coincide.1 payload proposedInFull
  exact ⟨argument, proposedInFull, read⟩

end MultisigAccount

end MoveClient
