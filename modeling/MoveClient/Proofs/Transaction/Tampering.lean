import MoveClient.Proofs.Transaction.Verification

/-!
A valid signed transaction cannot be changed.

Owns:
- that a valid proof of an account holds a signature for exactly one message;
- that two valid signed transactions that share a proof are for one transaction and name the same
  accounts in the same order;
- that a placeholder makes every signed transaction invalid.

Does not own: which transactions have one signing message, see
`MoveClient.Proofs.Transaction.SigningMessage`; and the schemes: that no key accepts a signature for
two messages is assumed.
-/

namespace MoveClient

variable {suite : Suite} {message : Bytes}

/-! ## A proof is for one message -/

/-- Where a set of keys accepts, one of its keys accepts one of the signatures, and does so wherever
the set accepts. -/
theorem exists_accepted_of_acceptsThreshold
    {κ σ : Type}
    {accepts : κ → σ → Except Error Bool}
    {keys : List κ}
    {threshold : Nat}
    {entries : List (Nat × σ)}
    (positive : 1 ≤ threshold)
    (accepted : acceptsThreshold accepts keys threshold entries = .ok true) :
    ∃ key signature, accepts key signature = .ok true ∧
      ∀ others : κ → σ → Except Error Bool,
        acceptsThreshold others keys threshold entries = .ok true →
          others key signature = .ok true := by
  obtain ⟨enough, allAccepted⟩ := acceptsThreshold_eq_ok_true_iff.mp accepted
  obtain ⟨entry, member⟩ := List.exists_mem_of_length_pos (Nat.lt_of_lt_of_le positive enough)
  obtain ⟨key, found, entryAccepted⟩ := allAccepted entry member
  refine ⟨key, entry.2, entryAccepted, ?_⟩
  intro others otherAccepted
  obtain ⟨_, allOtherAccepted⟩ := acceptsThreshold_eq_ok_true_iff.mp otherAccepted
  obtain ⟨otherKey, otherFound, entryOtherAccepted⟩ := allOtherAccepted entry member
  -- The key at the entry's position does not depend on what is accepted.
  rw [found] at otherFound
  cases otherFound
  exact entryOtherAccepted

namespace AccountAuthenticator

/-- A valid proof holds a signature that one of its keys accepts. For whatever message the proof is
valid, this key accepts this signature. -/
theorem exists_signature
    {proof : AccountAuthenticator}
    (valid : proof.verify suite message = .ok true) :
    ∃ (key : SingleKey) (signature : SingleSignature),
      key.verify suite message signature = .ok true ∧
        ∀ other, proof.verify suite other = .ok true →
          key.verify suite other signature = .ok true := by
  cases proof with
  | ed25519 key signature =>
      exact ⟨.ed25519 key, .ed25519 signature, valid, fun _ otherValid => otherValid⟩
  | singleKey key signature =>
      exact ⟨key, signature.inner, valid, fun _ otherValid => otherValid⟩
  | multiEd25519 key signature =>
      obtain ⟨member, inner, accepted, acceptedToo⟩ :=
        exists_accepted_of_acceptsThreshold key.threshold_pos valid
      exact ⟨.ed25519 member, .ed25519 inner, accepted,
        fun other otherValid => acceptedToo _ otherValid⟩
  | multiKey key signature =>
      obtain ⟨member, inner, accepted, acceptedToo⟩ :=
        exists_accepted_of_acceptsThreshold (Nat.one_le_iff_ne_zero.mpr key.threshold_ne_zero) valid
      exact ⟨member, inner.inner, accepted, fun other otherValid => acceptedToo _ otherValid⟩
  | absent => cases valid

/-- If no key accepts a signature for two messages, no proof is valid for two messages. -/
theorem message_unique
    (acceptsOneMessage : suite.AcceptsOneMessage)
    {proof : AccountAuthenticator}
    {other : Bytes}
    (valid : proof.verify suite message = .ok true)
    (otherValid : proof.verify suite other = .ok true) :
    message = other := by
  obtain ⟨key, signature, accepted, acceptedToo⟩ := exists_signature valid
  exact acceptsOneMessage key signature message other accepted (acceptedToo other otherValid)

theorem not_valid_absent : absent.verify suite message ≠ .ok true := by
  rintro ⟨⟩

end AccountAuthenticator

namespace Authenticator

/-- The accounts that take part beside the sender: none, secondary signers, or secondary signers
and a fee payer. -/
inductive Kind where
  | plain
  | multiAgent
  | feePayer
deriving DecidableEq, Repr

def kind : Authenticator → Kind
  | ed25519 .. | multiEd25519 .. | singleSender _ => .plain
  | multiAgent .. => .multiAgent
  | feePayer .. => .feePayer

/-- The fee payer with its proof. -/
def payer? : Authenticator → Option (Address × AccountAuthenticator)
  | feePayer _ _ payer => some payer
  | _ => none

theorem sender_mem_proofs (authenticator : Authenticator) :
    authenticator.sender ∈ authenticator.proofs := by
  cases authenticator <;> exact List.mem_cons_self

theorem mem_proofs_of_mem_secondary
    {authenticator : Authenticator}
    {signer : Address × AccountAuthenticator}
    (member : signer ∈ authenticator.secondary) :
    signer.2 ∈ authenticator.proofs := by
  have mapped := List.mem_map_of_mem (f := Prod.snd) member
  cases authenticator with
  | ed25519 | multiEd25519 | singleSender => cases member
  | multiAgent => exact List.mem_cons_of_mem _ mapped
  | feePayer => exact List.mem_cons_of_mem _ (List.mem_cons_of_mem _ mapped)

theorem mem_proofs_of_payer?_eq_some
    {authenticator : Authenticator}
    {payer : Address × AccountAuthenticator}
    (pays : authenticator.payer? = some payer) :
    payer.2 ∈ authenticator.proofs := by
  cases authenticator with
  | ed25519 | multiEd25519 | singleSender | multiAgent => cases pays
  | feePayer =>
      cases pays
      exact List.mem_cons_of_mem _ List.mem_cons_self

end Authenticator

namespace SignedTransaction

/-- The transactions differ in a field, or the proofs differ in kind, in the addresses of the
secondary signers, in their order or number, or in the address of the fee payer. -/
def DiffersFrom (left right : SignedTransaction) : Prop :=
  left.transaction.same right.transaction = false ∨
    left.authenticator.kind ≠ right.authenticator.kind ∨
    left.authenticator.secondary.map Prod.fst ≠ right.authenticator.secondary.map Prod.fst ∨
    left.authenticator.payer?.map Prod.fst ≠ right.authenticator.payer?.map Prod.fst

/-- An account of the transaction has not signed. -/
def HasPlaceholder (signed : SignedTransaction) : Prop :=
  signed.authenticator.sender = .absent ∨
    (∃ signer ∈ signed.authenticator.secondary, signer.2 = .absent) ∨
    ∃ payer, signed.authenticator.payer? = some payer ∧ payer.2 = .absent

theorem same_signable_iff {left right : SignedTransaction} :
    left.signable.same right.signable = true ↔
      left.transaction.same right.transaction = true ∧
        left.authenticator.kind = right.authenticator.kind ∧
        left.authenticator.secondary.map Prod.fst = right.authenticator.secondary.map Prod.fst ∧
        left.authenticator.payer?.map Prod.fst = right.authenticator.payer?.map Prod.fst := by
  obtain ⟨transaction, authenticator⟩ := left
  obtain ⟨transaction', authenticator'⟩ := right
  -- Proofs of different kinds stand for different forms; of one kind, every part is compared.
  cases authenticator <;> cases authenticator' <;>
    simp [signable, Signable.same, Signable.payerAddress, Authenticator.kind,
      Authenticator.secondary, Authenticator.payer?, and_assoc]

theorem holdsAddresses_signable
    {signed : SignedTransaction}
    (holdsAddresses : signed.HoldsAddresses) :
    signed.signable.HoldsAddresses := by
  obtain ⟨transaction, authenticator⟩ := signed
  cases authenticator <;> exact holdsAddresses

theorem absent_mem_proofs
    {signed : SignedTransaction}
    (placeholder : signed.HasPlaceholder) :
    .absent ∈ signed.authenticator.proofs := by
  rcases placeholder with senderEq | ⟨signer, member, signerEq⟩ | ⟨payer, pays, payerEq⟩
  · rw [← senderEq]
    exact signed.authenticator.sender_mem_proofs
  · rw [← signerEq]
    exact Authenticator.mem_proofs_of_mem_secondary member
  · rw [← payerEq]
    exact Authenticator.mem_proofs_of_payer?_eq_some pays

/-- Two valid signed transactions that share a proof are equal but for their proofs. -/
theorem not_differsFrom_of_verify
    (acceptsOneMessage : suite.AcceptsOneMessage)
    {left right : SignedTransaction}
    {proof : AccountAuthenticator}
    (leftAddresses : left.HoldsAddresses)
    (rightAddresses : right.HoldsAddresses)
    (leftValid : left.verify suite = .ok true)
    (rightValid : right.verify suite = .ok true)
    (leftMember : proof ∈ left.authenticator.proofs)
    (rightMember : proof ∈ right.authenticator.proofs) :
    ¬ left.DiffersFrom right := by
  obtain ⟨leftMessage, leftSigned, leftProofs⟩ := verify_eq_ok_true_iff.mp leftValid
  obtain ⟨rightMessage, rightSigned, rightProofs⟩ := verify_eq_ok_true_iff.mp rightValid
  have messageEq : leftMessage = rightMessage :=
    AccountAuthenticator.message_unique acceptsOneMessage (leftProofs proof leftMember)
      (rightProofs proof rightMember)
  subst messageEq
  have same := Signable.same_of_signingMessage leftSigned rightSigned
    (holdsAddresses_signable leftAddresses) (holdsAddresses_signable rightAddresses)
  obtain ⟨transactionSame, kindEq, secondaryEq, payerEq⟩ := same_signable_iff.mp same
  rintro (transactionDiffers | kindNe | secondaryNe | payerNe)
  · rw [transactionSame] at transactionDiffers
    cases transactionDiffers
  · exact kindNe kindEq
  · exact secondaryNe secondaryEq
  · exact payerNe payerEq

theorem not_verify_of_hasPlaceholder
    {signed : SignedTransaction}
    (placeholder : signed.HasPlaceholder) :
    signed.verify suite ≠ .ok true := by
  intro valid
  obtain ⟨message, _, proofs⟩ := verify_eq_ok_true_iff.mp valid
  exact AccountAuthenticator.not_valid_absent (proofs .absent (absent_mem_proofs placeholder))

/-- A valid signed transaction cannot be changed. If no key accepts a signature for two messages,
nothing that holds one of its proofs is valid and differs from it in the transaction, in the kind
of proofs, in the addresses of the secondary signers, their order or number, or in the address of
the fee payer, unless a type stands in place of an address. Nor is anything valid that an account
has not signed. -/
theorem signedTransaction_unalterable
    (acceptsOneMessage : suite.AcceptsOneMessage) :
    (∀ (signed altered : SignedTransaction) (proof : AccountAuthenticator),
      signed.verify suite = .ok true → signed.HoldsAddresses → altered.HoldsAddresses →
        proof ∈ signed.authenticator.proofs → proof ∈ altered.authenticator.proofs →
          altered.DiffersFrom signed → altered.verify suite ≠ .ok true) ∧
    (∀ signed : SignedTransaction,
      signed.HasPlaceholder → signed.verify suite ≠ .ok true) := by
  refine ⟨?_, fun _ placeholder => not_verify_of_hasPlaceholder placeholder⟩
  intro signed altered proof valid addresses alteredAddresses member alteredMember differs
    alteredValid
  exact not_differsFrom_of_verify acceptsOneMessage alteredAddresses addresses alteredValid valid
    alteredMember member differs

/-- For every message there are two different valid proofs, of keys that accept no signature for two
messages. -/
theorem exists_proofs (message : Bytes) :
    ∃ (suite : Suite) (first second : AccountAuthenticator),
      suite.AcceptsOneMessage ∧ first ≠ second ∧ first.verify suite message = .ok true ∧
        second.verify suite message = .ok true := by
  let suite := Suite.honest .standard (· = message)
  let firstKey : PrivateKey := .ed25519 (.zero 32)
  let secondKey : PrivateKey := .ecdsa .secp256k1 ⟨7, by decide, by decide⟩
  have firstSigns : firstKey.SignsTransactions := .inl rfl
  have secondSigns : secondKey.SignsTransactions := .inr rfl
  have accepts (key : PrivateKey) (signs : key.SignsTransactions) :
      (key.publicKey suite).verify suite message (key.sign suite message) = .ok true :=
    Suite.honest_accepts rfl signs
  obtain ⟨first, firstProved, firstValid⟩ :=
    PrivateKey.exists_prove firstSigns (accepts firstKey firstSigns)
  obtain ⟨second, secondProved, secondValid⟩ :=
    PrivateKey.exists_prove secondSigns (accepts secondKey secondSigns)
  refine ⟨suite, first, second, Suite.honest_acceptsOneMessage message, ?_, firstValid,
    secondValid⟩
  obtain ⟨_, _, secondEq⟩ := Error.bind_eq_ok_iff.mp secondProved
  rw [← Except.ok.inj firstProved, ← Except.ok.inj secondEq]
  rintro ⟨⟩

/-- What a sender and a secondary signer signed is not valid without the secondary signer. -/
theorem signedTransaction_unalterable_withoutSecondary :
    ∃ (suite : Suite) (signed altered unsigned : SignedTransaction),
      suite.AcceptsOneMessage ∧
        (signed.verify suite = .ok true ∧ signed.HoldsAddresses ∧ altered.HoldsAddresses ∧
          signed.authenticator.sender ∈ signed.authenticator.proofs ∧
          signed.authenticator.sender ∈ altered.authenticator.proofs ∧
          altered.DiffersFrom signed ∧ altered.verify suite ≠ .ok true) ∧
        unsigned.HasPlaceholder ∧ unsigned.verify suite ≠ .ok true := by
  let transaction := (Signable.scriptCall (.address .one)).transaction
  let signable : Signable := .multiAgent transaction [Signable.scriptCosigner]
  obtain ⟨message, messageEq⟩ : ∃ message, signable.signingMessage = .ok message :=
    ⟨_, Signable.signingMessage_eq_ok_iff.mpr ⟨_, rfl, rfl⟩⟩
  obtain ⟨suite, first, second, acceptsOneMessage, _, firstValid, secondValid⟩ :=
    exists_proofs message
  let signed : SignedTransaction :=
    ⟨transaction, .multiAgent first [(Signable.scriptCosigner, second)]⟩
  let altered : SignedTransaction := ⟨transaction, .singleSender first⟩
  let unsigned : SignedTransaction :=
    ⟨transaction, .multiAgent first [(Signable.scriptCosigner, .absent)]⟩
  obtain ⟨unalterable, placeholderInvalid⟩ := signedTransaction_unalterable acceptsOneMessage
  have valid : signed.verify suite = .ok true := by
    refine verify_eq_ok_true_iff.mpr ⟨message, messageEq, ?_⟩
    show ∀ proof ∈ [first, second], proof.verify suite message = .ok true
    rw [List.forall_mem_cons, List.forall_mem_singleton]
    exact ⟨firstValid, secondValid⟩
  have addresses : signed.HoldsAddresses := Signable.holdsAddresses_scriptCall .one
  have alteredAddresses : altered.HoldsAddresses := Signable.holdsAddresses_scriptCall .one
  have member : first ∈ signed.authenticator.proofs := List.mem_cons_self
  have alteredMember : first ∈ altered.authenticator.proofs := List.mem_cons_self
  have differs : altered.DiffersFrom signed := .inr (.inl nofun)
  have placeholder : unsigned.HasPlaceholder := .inr (.inl ⟨_, List.mem_cons_self, rfl⟩)
  exact ⟨suite, signed, altered, unsigned, acceptsOneMessage,
    ⟨valid, addresses, alteredAddresses, member, alteredMember, differs,
      unalterable signed altered first valid addresses alteredAddresses member alteredMember
        differs⟩,
    placeholder, placeholderInvalid unsigned placeholder⟩

set_option maxRecDepth 2000 in
/-- What is not signed can be changed: which of two proofs stands with which of two equal addresses,
and whether a type or an address with the same octets is given in place of an address. -/
theorem signedTransaction_alterable_reorderedProofs_type :
    (∃ (suite : Suite) (transaction : RawTransaction) (address : Address)
      (sender first second : AccountAuthenticator),
      suite.AcceptsOneMessage ∧ first ≠ second ∧
        verify suite ⟨transaction, .multiAgent sender [(address, first), (address, second)]⟩ =
          .ok true ∧
        verify suite ⟨transaction, .multiAgent sender [(address, second), (address, first)]⟩ =
          .ok true) ∧
    ∃ (suite : Suite) (transaction altered : RawTransaction) (authenticator : Authenticator),
      suite.AcceptsOneMessage ∧ altered.same transaction = false ∧
        verify suite ⟨transaction, authenticator⟩ = .ok true ∧
        verify suite ⟨altered, authenticator⟩ = .ok true := by
  constructor
  · let transaction := (unsignedCall (.address .one)).transaction
    obtain ⟨message, messageEq⟩ : ∃ message,
        (Signable.multiAgent transaction [.one, .one]).signingMessage = .ok message :=
      ⟨_, Signable.signingMessage_eq_ok_iff.mpr ⟨_, rfl, rfl⟩⟩
    obtain ⟨suite, first, second, acceptsOneMessage, different, firstValid, secondValid⟩ :=
      exists_proofs message
    refine ⟨suite, transaction, .one, first, first, second, acceptsOneMessage, different,
      verify_eq_ok_true_iff.mpr ⟨message, messageEq, ?_⟩,
      verify_eq_ok_true_iff.mpr ⟨message, messageEq, ?_⟩⟩
    · show ∀ proof ∈ [first, first, second], proof.verify suite message = .ok true
      rw [List.forall_mem_cons, List.forall_mem_cons, List.forall_mem_singleton]
      exact ⟨firstValid, firstValid, secondValid⟩
    · show ∀ proof ∈ [first, second, first], proof.verify suite message = .ok true
      rw [List.forall_mem_cons, List.forall_mem_cons, List.forall_mem_singleton]
      exact ⟨firstValid, secondValid, firstValid⟩
  · let transaction := (unsignedCall (.type addressLongType)).transaction
    let altered := (unsignedCall (.address addressOfType)).transaction
    have writeEq : transaction.write = altered.write := rfl
    obtain ⟨octets, written⟩ : altered.write.IsComplete := ⟨_, rfl⟩
    let message := (Signable.plain altered).prehash ++ octets
    obtain ⟨suite, first, _, acceptsOneMessage, _, firstValid, _⟩ := exists_proofs message
    have proofsValid : ∀ proof ∈ [first], proof.verify suite message = .ok true := by
      rw [List.forall_mem_singleton]
      exact firstValid
    refine ⟨suite, transaction, altered, .singleSender first, acceptsOneMessage, by decide,
      verify_eq_ok_true_iff.mpr ⟨message, ?_, proofsValid⟩,
      verify_eq_ok_true_iff.mpr ⟨message, ?_, proofsValid⟩⟩
    · exact Signable.signingMessage_eq_ok_iff.mpr ⟨octets, writeEq.trans written, rfl⟩
    · exact Signable.signingMessage_eq_ok_iff.mpr ⟨octets, written, rfl⟩

end SignedTransaction

end MoveClient
