import MoveClient.Account
import MoveClient.Proofs.Key.SharedForms

/-!
Challenges for changing the key of an account.

Owns:
- the wire form of a challenge;
- what the octets of a challenge tell of its fields, and that they do not tell the new key where its
  wire form does not.

Does not own: which keys have one wire form.
-/

namespace MoveClient

namespace RotationChallenge

/-- The name of the challenge's type, in front of its fields. -/
def typeOctets : Bytes :=
  Address.one.bytes ++ 7 :: Emission.textOctets "account" ++
    22 :: Emission.textOctets "RotationProofChallenge"

theorem write_eq_complete
    (challenge : RotationChallenge)
    {number : Int}
    (fits : IntegerType.u64.Holds number)
    (numbered : challenge.sequenceNumber = .int number) :
    challenge.write = .complete (typeOctets ++ Emission.integerOctets .u64 number ++
      challenge.originator.bytes ++ challenge.currentKey.bytes ++ challenge.newKey.write.octets) := by
  have numberWritten : challenge.sequenceNumber.writeInteger (.fixed .u64) =
      .complete (Emission.integerOctets .u64 number) := by
    rw [numbered]
    exact if_pos fits
  rw [write, numberWritten, PublicKey.write_eq_complete]
  rfl

/-- Every field but the last takes a fixed number of octets, so each is found again where it was
written. -/
theorem fields_of_write_eq
    {challenge other : RotationChallenge}
    {number otherNumber : Int}
    (holds : IntegerType.u64.Holds number)
    (otherHolds : IntegerType.u64.Holds otherNumber)
    (numbered : challenge.sequenceNumber = .int number)
    (otherNumbered : other.sequenceNumber = .int otherNumber)
    (same : challenge.write = other.write) :
    number = otherNumber ∧ challenge.originator = other.originator ∧
      challenge.currentKey = other.currentKey ∧ challenge.newKey.write = other.newKey.write := by
  rw [challenge.write_eq_complete holds numbered, other.write_eq_complete otherHolds otherNumbered,
    Emission.complete.injEq] at same
  simp only [List.append_assoc] at same
  have afterType := List.append_cancel_left same
  have sameWidth : (Emission.integerOctets .u64 number).length =
      (Emission.integerOctets .u64 otherNumber).length := by
    rw [Emission.length_integerOctets, Emission.length_integerOctets]
  obtain ⟨numbersEq, afterNumber⟩ := List.append_inj afterType sameWidth
  obtain ⟨originatorEq, afterOriginator⟩ := Address.append_injective afterNumber
  obtain ⟨currentKeyEq, newKeyEq⟩ := Address.append_injective afterOriginator
  have numberWritten : Emission.integer .u64 number =
      .complete (Emission.integerOctets .u64 number) := if_pos holds
  have otherNumberWritten : Emission.integer .u64 otherNumber =
      .complete (Emission.integerOctets .u64 number) := by
    rw [numbersEq]
    exact if_pos otherHolds
  have numberEq : number = otherNumber :=
    Emission.integer_injective (Emission.result_eq_ok_iff.mpr numberWritten)
      (Emission.result_eq_ok_iff.mpr otherNumberWritten)
  have keysWritten : challenge.newKey.write = other.newKey.write := by
    rw [PublicKey.write_eq_complete, PublicKey.write_eq_complete] at newKeyEq ⊢
    exact congrArg Emission.complete newKeyEq
  exact ⟨numberEq, originatorEq, currentKeyEq, keysWritten⟩

/-- The octets of two challenges are equal exactly if all fields are, but for new keys that share
their wire form. -/
theorem octets_bind_fields
    (challenge other : RotationChallenge)
    (fits : challenge.sequenceNumber.IsIntegerOf .u64)
    (otherFits : other.sequenceNumber.IsIntegerOf .u64) :
    (∃ octets, challenge.write.result = .ok octets ∧ other.write.result = .ok octets) ↔
      challenge.sequenceNumber = other.sequenceNumber ∧ challenge.originator = other.originator ∧
        challenge.currentKey = other.currentKey ∧
        PublicKey.Alike challenge.newKey other.newKey := by
  obtain ⟨number, numbered, holds⟩ := Value.exists_int_of_isIntegerOf fits
  obtain ⟨otherNumber, otherNumbered, otherHolds⟩ := Value.exists_int_of_isIntegerOf otherFits
  simp only [Emission.result_eq_ok_iff]
  apply Iff.intro
  · intro given
    obtain ⟨octets, written, otherWritten⟩ := given
    obtain ⟨numberEq, originatorEq, currentKeyEq, keysWritten⟩ := fields_of_write_eq holds
      otherHolds numbered otherNumbered (written.trans otherWritten.symm)
    refine ⟨?_, originatorEq, currentKeyEq, PublicKey.write_eq_iff.mp keysWritten⟩
    rw [numbered, otherNumbered, numberEq]
  · intro given
    obtain ⟨sequenceNumberEq, originatorEq, currentKeyEq, alike⟩ := given
    refine ⟨_, challenge.write_eq_complete holds numbered, ?_⟩
    rw [other.write_eq_complete holds (sequenceNumberEq.symm.trans numbered), originatorEq,
      currentKeyEq, PublicKey.write_eq_iff.mpr alike]

/-- A wrapped key is told from the wrapped key of another scheme with the same octets. -/
theorem octets_bind_fields_wrapped :
    ¬ ∃ octets,
      (write ⟨.int 5, .one, .zero, .wrapped (.ed25519 (.zero 32))⟩).result = .ok octets ∧
        (write ⟨.int 5, .one, .zero, .wrapped (.slhDsa (.zero 32))⟩).result = .ok octets := by
  have holds : IntegerType.u64.Holds 5 := by decide
  have fits : (Value.int 5).IsIntegerOf .u64 := holds
  have bound := octets_bind_fields ⟨.int 5, .one, .zero, .wrapped (.ed25519 (.zero 32))⟩
    ⟨.int 5, .one, .zero, .wrapped (.slhDsa (.zero 32))⟩ fits fits
  intro shared
  obtain ⟨_, _, _, same | shares | shares⟩ := bound.mp shared
  · cases same
  · cases shares
  · cases shares

/-! ## Keys that are not told apart -/

/-- A point whose octets spell two keys of 32 octets and a threshold as well. -/
def ambiguousPoint : EcdsaPublicKey .secp256k1 :=
  ⟨33, 0x7122f15a5f0e093e44fc19905fe3b9cf8ae7586f6f3b4a38edf34a6c97347e02, by decide +kernel⟩

/-- The set of these two keys, which both have to sign. -/
def ambiguousSet : MultiEd25519Key where
  keys := [
    ⟨4 :: List.replicate 31 0, rfl⟩,
    ⟨33 :: (Bytes.bigEndian 32 ambiguousPoint.y).take 31, by simp⟩]
  threshold := 2
  enough_keys := by decide
  few_keys := by decide
  threshold_pos := by decide
  threshold_le := by decide

/-- The octets of a challenge depend on those of the new key alone. -/
theorem exists_shared_octets
    {number : Int}
    {key otherKey : PublicKey}
    (fits : IntegerType.u64.Holds number)
    (same : key.write = otherKey.write) :
    ∃ octets, (write ⟨.int number, .one, .zero, key⟩).result = .ok octets ∧
      (write ⟨.int number, .one, .zero, otherKey⟩).result = .ok octets := by
  have written := write_eq_complete ⟨.int number, .one, .zero, key⟩ fits rfl
  have otherWritten := write_eq_complete ⟨.int number, .one, .zero, otherKey⟩ fits rfl
  refine ⟨_, Emission.result_eq_ok_iff.mpr written, ?_⟩
  rw [otherWritten, same]
  rfl

/-- A bare Ed25519 key and a bare SLH-DSA key of the same octets are not told apart, nor are an ECDSA
key and a set of two Ed25519 keys. -/
theorem new_key_not_bound :
    let challenge (newKey : PublicKey) : RotationChallenge := ⟨.int 5, .one, .zero, newKey⟩
    let shared (key other : PublicKey) : Prop := key ≠ other ∧
      ∃ octets, (challenge key).write.result = .ok octets ∧
        (challenge other).write.result = .ok octets
    (Value.int 5).IsIntegerOf .u64 ∧
      shared (.bare (.ed25519 (.zero 32))) (.bare (.slhDsa (.zero 32))) ∧
      shared (.bare (.ecdsa _ ambiguousPoint)) (.multiEd25519 ambiguousSet) := by
  have fits : IntegerType.u64.Holds 5 := by decide
  have spelledAlike : ambiguousPoint.bytes = ambiguousSet.bytes := by decide +kernel
  refine ⟨fits, ⟨nofun, exists_shared_octets fits rfl⟩, nofun, ?_⟩
  exact exists_shared_octets fits (congrArg Emission.bytes spelledAlike)

end RotationChallenge

end MoveClient
