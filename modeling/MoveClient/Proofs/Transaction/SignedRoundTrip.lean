import MoveClient.Proofs.Transaction.Authenticators
import MoveClient.Proofs.Transaction.RoundTrip

/-!
Signed transactions go through the wire.

Owns:
- which signed transactions can be written, and the parts of their wire form;
- that a signed transaction is read back as an equal one, whatever follows it;
- that what is read is written as the octets it was read from, but for the two liberties that
  `WirePart.Tolerates` allows, and that writing it once more changes nothing.

Does not own: which messages were signed.
-/

namespace MoveClient.SignedTransaction

variable {input rest : Bytes}

/-- The transaction can be written, and the secondary signers can be counted. -/
def HasWireForm (signed : SignedTransaction) : Prop :=
  signed.transaction.HasWireForm ∧ signed.authenticator.secondary.length ≤ maxLength

/-- Every script argument of the address kind holds an address. -/
def HoldsAddresses (signed : SignedTransaction) : Prop :=
  ∀ argument ∈ signed.transaction.payload.scriptArguments, argument.HoldsAddress

/-- The transaction and the parts of its proofs. -/
def parts (signed : SignedTransaction) : List WirePart :=
  .plain signed.transaction.write.octets :: signed.authenticator.parts

/-- What is read back. -/
def decoded (signed : SignedTransaction) : SignedTransaction :=
  { signed with transaction := signed.transaction.decoded }

theorem isComplete_write_iff {signed : SignedTransaction} :
    signed.write.IsComplete ↔ signed.HasWireForm := by
  rw [write, Emission.isComplete_append_iff, RawTransaction.isComplete_write_iff,
    Authenticator.isComplete_write_iff]
  rfl

theorem write_carries
    {signed : SignedTransaction}
    (form : signed.HasWireForm) :
    signed.write.Carries signed.parts :=
  (RawTransaction.isComplete_write_iff.mpr form.1).carries.append
    (Authenticator.write_carries form.2)

theorem read_eq_ok_iff {signed : SignedTransaction} :
    read input = .ok signed rest ↔
      signed.transaction.payload.IsDecoded ∧ signed.HasWireForm ∧
        WirePart.Found signed.parts input rest := by
  obtain ⟨transaction, authenticator⟩ := signed
  rw [read, Reader.both_eq_ok_iff, parts, WirePart.found_cons_iff]
  simp only [RawTransaction.read_eq_ok_iff, Authenticator.read_eq_ok_iff, mk.injEq]
  constructor
  · rintro ⟨_, _, ⟨rfl, rfl⟩, middle, ⟨decoded, spelled⟩, few, found⟩
    have complete := spelled.isComplete
    exact ⟨decoded, ⟨RawTransaction.isComplete_write_iff.mp complete, few⟩, middle,
      complete.found_iff.mpr spelled, found⟩
  · rintro ⟨decoded, ⟨form, few⟩, middle, written, found⟩
    have complete := RawTransaction.isComplete_write_iff.mpr form
    exact ⟨_, _, ⟨rfl, rfl⟩, middle, ⟨decoded, complete.found_iff.mp written⟩, few, found⟩

theorem same_iff
    {left right : SignedTransaction}
    (leftForm : left.HasWireForm)
    (rightForm : right.HasWireForm) :
    left.same right = true ↔ left.decoded = right.decoded := by
  rw [same, Bool.and_eq_true, RawTransaction.same_iff leftForm.1 rightForm.1, beq_iff_eq, decoded,
    decoded, mk.injEq]

theorem parts_decoded (signed : SignedTransaction) : signed.decoded.parts = signed.parts := by
  rw [parts, decoded, RawTransaction.write_decoded]
  rfl

theorem hasWireForm_decoded
    {signed : SignedTransaction}
    (form : signed.HasWireForm) :
    signed.decoded.HasWireForm := by
  refine ⟨?_, form.2⟩
  rw [← RawTransaction.isComplete_write_iff, decoded, RawTransaction.write_decoded]
  exact RawTransaction.isComplete_write_iff.mpr form.1

/-- What is written is read back, with anything behind it left. -/
theorem read_written
    {signed : SignedTransaction}
    (form : signed.HasWireForm)
    (holdsAddresses : signed.HoldsAddresses)
    (rest : Bytes) :
    read (signed.parts.flatMap WirePart.octets ++ rest) = .ok signed.decoded rest := by
  apply read_eq_ok_iff.mpr
  refine ⟨Payload.isDecoded_decoded form.1.payload holdsAddresses, hasWireForm_decoded form, ?_⟩
  rw [parts_decoded]
  exact WirePart.found_written signed.parts rest

/-- Signed transactions go through the wire. One can be written exactly if its transaction can and
its secondary signers can be counted. What is written is read back as an equal one, with anything
behind it left, unless a type stands in place of an address. Whatever is read was spelled by its
parts, where public keys may lack the octet in front and marks of positions that are zero may be
missing; it is written as its parts are, and reading that gives it once more. -/
theorem signedTransaction_round_trip :
    (∀ signed : SignedTransaction,
      (∃ octets, signed.write.result = .ok octets) ↔ signed.HasWireForm) ∧
    (∀ (signed : SignedTransaction) (octets rest : Bytes),
      signed.write.result = .ok octets → signed.HoldsAddresses →
        ∃ other, read (octets ++ rest) = .ok other rest ∧ other.same signed = true) ∧
    (∀ (signed : SignedTransaction) (input rest : Bytes),
      read input = .ok signed rest →
        ∃ taken,
          List.Forall₂ WirePart.Tolerates signed.parts taken ∧ input = taken.flatten ++ rest ∧
            signed.write.result = .ok (signed.parts.flatMap WirePart.octets) ∧
            read (signed.parts.flatMap WirePart.octets) = .ok signed []) := by
  simp only [Emission.result_eq_ok_iff]
  refine ⟨fun _ => isComplete_write_iff, ?_, ?_⟩
  · intro signed octets rest written holdsAddresses
    have form := isComplete_write_iff.mp ⟨octets, written⟩
    have octetsEq : octets = signed.parts.flatMap WirePart.octets :=
      Emission.complete.inj (written.symm.trans (write_carries form))
    subst octetsEq
    refine ⟨signed.decoded, read_written form holdsAddresses rest, ?_⟩
    rw [same_iff (hasWireForm_decoded form) form, decoded, decoded, RawTransaction.decoded_decoded]
  · intro signed input rest readEq
    obtain ⟨isDecoded, form, taken, tolerated, inputEq⟩ := read_eq_ok_iff.mp readEq
    have writtenFound := WirePart.found_written signed.parts []
    rw [List.append_nil] at writtenFound
    exact ⟨taken, tolerated, inputEq, write_carries form,
      read_eq_ok_iff.mpr ⟨isDecoded, form, writtenFound⟩⟩

/-- A call that two keys of one sender, a secondary signer and a fee payer have to sign; the
secondary signer has not. -/
def sharedCall : SignedTransaction :=
  let key : MultiKey :=
    ⟨[.ed25519 (.zero 32), .ecdsa .secp256k1 (.generator .secp256k1)], 2, by decide, by decide,
      by decide, by decide⟩
  let signature : MultiKeySignature :=
    ⟨[(0, .ed25519 (.zero 64)), (1, .secp256k1 (.zero 64))], by decide, by decide⟩
  ⟨(Signable.scriptCall (.address .one)).transaction,
    .feePayer (.multiKey key signature) [(Signable.scriptCosigner, .absent)]
      (.one, .ed25519 (.zero 32) (.zero 64))⟩

/-- Octets for the parts of `sharedCall`: the second key lacks the octet in front, and one octet of
marks is given. -/
def sharedCallTaken : List Bytes :=
  let zeros (count : Nat) : Bytes := List.replicate count 0
  [Signable.scriptCallRaw Address.one.bytes, [3], [3], [2], [0], 32 :: zeros 32, [1],
    64 :: (EcdsaPublicKey.generator .secp256k1).coordinates, [2], [2], 0 :: 64 :: zeros 64,
    1 :: 64 :: zeros 64, [1, 0xc0], [1], Signable.scriptCosigner.bytes, [1], [4],
    Address.one.bytes, [0], 32 :: zeros 32, 64 :: zeros 64]

theorem sharedCallTaken_tolerated :
    List.Forall₂ WirePart.Tolerates sharedCall.parts sharedCallTaken := by
  have written (part : WirePart) (taken : Bytes) (takenEq : part.octets = taken) :
      part.Tolerates taken := takenEq ▸ .written part
  exact
    .cons (written _ _ rfl) <| .cons (written _ _ rfl) <| .cons (written _ _ rfl) <|
    .cons (written _ _ rfl) <| .cons (written _ _ rfl) <| .cons (written _ _ rfl) <|
    .cons (written _ _ rfl) <| .cons (.unmarked _) <| .cons (written _ _ rfl) <|
    .cons (written _ _ rfl) <| .cons (written _ _ rfl) <| .cons (written _ _ rfl) <|
    .cons (.short [0xc0] 3 rfl) <| .cons (written _ _ rfl) <| .cons (written _ _ rfl) <|
    .cons (written _ _ rfl) <| .cons (written _ _ rfl) <| .cons (written _ _ rfl) <|
    .cons (written _ _ rfl) <| .cons (written _ _ rfl) <| .cons (written _ _ rfl) .nil

theorem hasWireForm_sharedCall : sharedCall.HasWireForm := by
  refine ⟨RawTransaction.isComplete_write_iff.mp ⟨_, rfl⟩, ?_⟩
  show 1 ≤ maxLength
  decide

theorem holdsAddresses_sharedCall : sharedCall.HoldsAddresses :=
  Signable.holdsAddresses_scriptCall .one

theorem read_sharedCallTaken (rest : Bytes) :
    read (sharedCallTaken.flatten ++ rest) = .ok sharedCall.decoded rest := by
  refine read_eq_ok_iff.mpr ⟨?_, hasWireForm_decoded hasWireForm_sharedCall, sharedCallTaken, ?_,
    rfl⟩
  · exact Payload.isDecoded_decoded hasWireForm_sharedCall.1.payload holdsAddresses_sharedCall
  · rw [parts_decoded]
    exact sharedCallTaken_tolerated

theorem signedTransaction_round_trip_sharedCall :
    (∃ other,
      read (sharedCall.parts.flatMap WirePart.octets ++ [9]) = .ok other [9] ∧
        other.same sharedCall = true) ∧
      ∃ taken, List.Forall₂ WirePart.Tolerates sharedCall.decoded.parts taken ∧
        sharedCallTaken.flatten ++ [9] = taken.flatten ++ [9] ∧
        sharedCall.decoded.write.result =
          .ok (sharedCall.decoded.parts.flatMap WirePart.octets) ∧
        read (sharedCall.decoded.parts.flatMap WirePart.octets) = .ok sharedCall.decoded [] := by
  obtain ⟨_, readBack, writtenAgain⟩ := signedTransaction_round_trip
  have written := Emission.result_eq_ok_iff.mpr (write_carries hasWireForm_sharedCall)
  exact ⟨readBack sharedCall _ [9] written holdsAddresses_sharedCall,
    writtenAgain _ _ [9] (read_sharedCallTaken [9])⟩

/-- A type whose wire form has as many octets as an address. -/
def addressLongType : TypeTag :=
  (List.range 31).foldl (fun element _ => .vector element) .u8

/-- The address with the same octets. -/
def addressOfType : Address :=
  ⟨List.replicate 31 6 ++ [1], rfl⟩

/-- A script call with `argument` of the address kind, without a signature. -/
def unsignedCall (argument : Value) : SignedTransaction :=
  let script : Script := ⟨[], [], [⟨.address, argument⟩]⟩
  ⟨⟨.one, .int 0, .script script, .int 0, .int 0, .int 0, .int 4⟩, .singleSender .absent⟩

/-- A call with one secondary signer more than can be counted. -/
def crowdedCall : SignedTransaction :=
  { unsignedCall (.address .one) with
    authenticator := .multiAgent .absent (List.replicate (maxLength + 1) (.one, .absent)) }

theorem not_write_crowdedCall (octets : Bytes) : crowdedCall.write.result ≠ .ok octets := by
  intro written
  have few := (isComplete_write_iff.mp ⟨octets, Emission.result_eq_ok_iff.mp written⟩).2
  rw [crowdedCall, Authenticator.secondary, List.length_replicate] at few
  omega

set_option maxRecDepth 2000 in
/-- A type in place of an address is written, and an address is read back in its place. More
secondary signers than can be counted are not written. -/
theorem unsignedCall_type_read_back :
    (∃ (octets : Bytes) (other : SignedTransaction),
      (unsignedCall (.type addressLongType)).write.result = .ok octets ∧
        read octets = .ok other [] ∧
        other.same (unsignedCall (.type addressLongType)) = false) ∧
    ∃ signed : SignedTransaction, signed.transaction.HasWireForm ∧ signed.HoldsAddresses ∧
      ∀ octets, signed.write.result ≠ .ok octets := by
  constructor
  · let readBack := unsignedCall (.address addressOfType)
    refine ⟨readBack.parts.flatMap WirePart.octets, readBack, rfl, ?_, by decide⟩
    have found := WirePart.found_written readBack.parts []
    rw [List.append_nil] at found
    refine read_eq_ok_iff.mpr ⟨?_, isComplete_write_iff.mp ⟨_, rfl⟩, found⟩
    intro argument member
    cases List.mem_singleton.mp member
    exact ⟨addressOfType, rfl⟩
  · refine ⟨crowdedCall, RawTransaction.isComplete_write_iff.mp ⟨_, rfl⟩, ?_,
      not_write_crowdedCall⟩
    intro argument member _
    cases List.mem_singleton.mp member
    exact ⟨.one, rfl⟩

end MoveClient.SignedTransaction
