import MoveClient.Proofs.Transaction.RoundTrip

/-!
A signing message stands for one transaction.

Owns:
- that the digests in front of the two forms of signing messages differ;
- that two transactions have one signing message exactly if they are equal.

Does not own: the wire form behind the digest, which `MoveClient.Proofs.Transaction.RoundTrip`
reads back.
-/

namespace MoveClient.Signable

theorem plainPrefix_ne_extendedPrefix : plainPrefix ≠ extendedPrefix := by
  decide +kernel

@[simp] theorem length_prehash (signable : Signable) : signable.prehash.length = 32 := by
  cases signable <;> exact Sha3.hash_length _

theorem signingMessage_eq_ok_iff
    {signable : Signable}
    {message : Bytes} :
    signable.signingMessage = .ok message ↔
      ∃ octets, signable.write = .complete octets ∧ message = signable.prehash ++ octets := by
  unfold signingMessage
  cases signable.write with
  | complete octets =>
      simp only [Emission.complete.injEq]
      constructor
      · rintro ⟨⟩
        exact ⟨octets, rfl, rfl⟩
      · rintro ⟨_, rfl, rfl⟩
        rfl
  | broken octets error =>
      constructor
      · rintro ⟨⟩
      · rintro ⟨_, written, _⟩
        cases written

/-- The digest in front tells by which reader the rest is read. -/
theorem reader_eq_of_prehash_eq
    {left right : Signable}
    (prehashEq : left.prehash = right.prehash) :
    left.reader = right.reader := by
  cases left <;> cases right
  case plain.plain | multiAgent.multiAgent | multiAgent.feePayer | feePayer.multiAgent |
      feePayer.feePayer => rfl
  case plain.multiAgent | plain.feePayer =>
    exact absurd prehashEq plainPrefix_ne_extendedPrefix
  case multiAgent.plain | feePayer.plain =>
    exact absurd prehashEq.symm plainPrefix_ne_extendedPrefix

/-- What has one signing message is equal, unless a type stands in place of an address. -/
theorem same_of_signingMessage
    {left right : Signable}
    {message : Bytes}
    (leftSigned : left.signingMessage = .ok message)
    (rightSigned : right.signingMessage = .ok message)
    (leftAddresses : left.HoldsAddresses)
    (rightAddresses : right.HoldsAddresses) :
    left.same right = true := by
  obtain ⟨leftOctets, leftWritten, rfl⟩ := signingMessage_eq_ok_iff.mp leftSigned
  obtain ⟨rightOctets, rightWritten, messageEq⟩ := signingMessage_eq_ok_iff.mp rightSigned
  have equalLengths : left.prehash.length = right.prehash.length := by
    rw [length_prehash, length_prehash]
  obtain ⟨prehashEq, rfl⟩ := List.append_inj messageEq equalLengths
  have leftRead : left.reader leftOctets = .ok left.decoded [] :=
    reader_decoded leftAddresses ⟨leftOctets, leftWritten, (List.append_nil _).symm⟩
  have rightRead : right.reader leftOctets = .ok right.decoded [] :=
    reader_decoded rightAddresses ⟨leftOctets, rightWritten, (List.append_nil _).symm⟩
  -- The digest names the reader, so both are what it reads from the same octets.
  rw [reader_eq_of_prehash_eq prehashEq, rightRead] at leftRead
  have leftForm := isComplete_write_iff.mp ⟨leftOctets, leftWritten⟩
  have rightForm := isComplete_write_iff.mp ⟨leftOctets, rightWritten⟩
  exact (same_iff leftForm rightForm).mpr (EStateM.Result.ok.inj leftRead).1.symm

/-- Two transactions whose script arguments of the address kind hold addresses have one signing
message exactly if they are of one form and equal. -/
theorem signingMessage_eq_iff
    {left right : Signable}
    {leftMessage rightMessage : Bytes}
    (leftSigned : left.signingMessage = .ok leftMessage)
    (rightSigned : right.signingMessage = .ok rightMessage)
    (leftAddresses : left.HoldsAddresses)
    (rightAddresses : right.HoldsAddresses) :
    leftMessage = rightMessage ↔ left.same right = true := by
  constructor
  · intro messageEq
    subst messageEq
    exact same_of_signingMessage leftSigned rightSigned leftAddresses rightAddresses
  · intro same
    obtain ⟨leftOctets, leftWritten, rfl⟩ := signingMessage_eq_ok_iff.mp leftSigned
    obtain ⟨rightOctets, rightWritten, rfl⟩ := signingMessage_eq_ok_iff.mp rightSigned
    have leftForm : left.HasWireForm := isComplete_write_iff.mp ⟨leftOctets, leftWritten⟩
    have rightForm : right.HasWireForm := isComplete_write_iff.mp ⟨rightOctets, rightWritten⟩
    have decodedEq := (same_iff leftForm rightForm).mp same
    have writeEq : left.write = right.write := by
      rw [← write_decoded left, decodedEq, write_decoded]
    have prehashEq : left.prehash = right.prehash := by
      rw [← prehash_decoded left, decodedEq, prehash_decoded]
    rw [leftWritten, rightWritten] at writeEq
    cases writeEq
    rw [prehashEq]

theorem signingMessage_eq_iff_scriptCall :
    ∃ message, (scriptCall (.address .one)).signingMessage = .ok message ∧
      (scriptCall (.address .one)).decoded.signingMessage = .ok message ∧
      (scriptCall (.address .one)).same (scriptCall (.address .one)).decoded = true := by
  have message_eq : (scriptCall (.address .one)).signingMessage =
      .ok (extendedPrefix ++ scriptCallOctets Address.one.bytes) :=
    signingMessage_eq_ok_iff.mpr ⟨_, rfl, rfl⟩
  have decodedMessage_eq : (scriptCall (.address .one)).decoded.signingMessage =
      .ok (extendedPrefix ++ scriptCallOctets Address.one.bytes) :=
    signingMessage_eq_ok_iff.mpr ⟨_, rfl, rfl⟩
  have decodedAddresses : (scriptCall (.address .one)).decoded.HoldsAddresses := by
    intro argument member isAddress
    rcases List.mem_cons.mp member with rfl | member
    · exact ⟨.one, rfl⟩
    · cases List.mem_singleton.mp member
      cases isAddress
  exact ⟨_, message_eq, decodedMessage_eq,
    (signingMessage_eq_iff message_eq decodedMessage_eq (holdsAddresses_scriptCall .one)
      decodedAddresses).mp rfl⟩

/-- Where a type stands in place of an address, the signing message is that of another
transaction, all of whose arguments are of their kinds. -/
theorem signingMessage_scriptCall_type :
    ∃ message, (scriptCall (.type .u8)).signingMessage = .ok message ∧
      scriptCallMisread.signingMessage = .ok message ∧
      (scriptCall (.type .u8)).same scriptCallMisread = false :=
  ⟨extendedPrefix ++ scriptCallOctets [1], signingMessage_eq_ok_iff.mpr ⟨_, rfl, rfl⟩,
    signingMessage_eq_ok_iff.mpr ⟨_, rfl, rfl⟩, by decide⟩

end MoveClient.Signable
