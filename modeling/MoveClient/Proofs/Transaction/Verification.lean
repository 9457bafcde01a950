import MoveClient.Proofs.Key.Acceptance
import MoveClient.Proofs.Transaction.SignedRoundTrip
import MoveClient.Proofs.Transaction.SigningMessage

/-!
When the proofs of a transaction are valid.

Owns:
- when all proofs of a transaction are valid, in terms of the message they are for;
- that a private key proves exactly if its scheme signs transactions, and that its proof is valid
  if public keys accept the signatures of their private keys;
- that a valid signed transaction goes through the wire and is still valid.

Does not own: which proofs stand in a transaction.
-/

namespace MoveClient

variable {suite : Suite}

/-! ## Proofs by private keys -/

namespace PrivateKey

/-- A key of a scheme that signs transactions proves, and its proof is valid if its public key
accepts what it signs. -/
theorem exists_prove
    {key : PrivateKey}
    {message : Bytes}
    (signs : key.SignsTransactions)
    (accepted : (key.publicKey suite).verify suite message (key.sign suite message) = .ok true) :
    ∃ proof, key.prove suite message = .ok proof ∧ proof.verify suite message = .ok true := by
  cases key with
  | ed25519 seed => exact ⟨_, rfl, accepted⟩
  | ecdsa curve secret =>
      rcases signs with signs | signs <;> cases signs
      exact ⟨_, rfl, accepted⟩

theorem signsTransactions_of_prove
    {key : PrivateKey}
    {message : Bytes}
    {proof : AccountAuthenticator}
    (proved : key.prove suite message = .ok proof) :
    key.SignsTransactions := by
  rcases key with seed | ⟨_ | _, secret⟩
  · exact .inl rfl
  · exact .inr rfl
  · cases proved

/-- Whatever a key proves is valid. -/
theorem verify_of_prove
    (acceptsOwn : suite.AcceptsOwn)
    {key : PrivateKey}
    {message : Bytes}
    {proof : AccountAuthenticator}
    (proved : key.prove suite message = .ok proof) :
    proof.verify suite message = .ok true := by
  have signs := signsTransactions_of_prove proved
  obtain ⟨other, otherProved, valid⟩ := exists_prove signs (acceptsOwn key message signs)
  rw [proved] at otherProved
  cases otherProved
  exact valid

end PrivateKey

/-! ## All proofs of a transaction -/

theorem Authenticator.verifyAll_eq_ok_true_iff
    {message : Bytes}
    {proofs : List AccountAuthenticator} :
    verifyAll suite message proofs = .ok true ↔
      ∀ proof ∈ proofs, proof.verify suite message = .ok true := by
  induction proofs with
  | nil => simp [verifyAll]
  | cons proof rest inductionHypothesis =>
      rw [verifyAll, List.forall_mem_cons, ← inductionHypothesis, Error.bind_eq_ok_iff]
      constructor
      · rintro ⟨verdict, judged, restJudged⟩
        cases verdict with
        | false => cases restJudged
        | true => exact ⟨judged, restJudged⟩
      · rintro ⟨judged, restJudged⟩
        exact ⟨true, judged, restJudged⟩

namespace SignedTransaction

/-- A signed transaction is valid if all its proofs are for the message that it stands for. -/
theorem verify_eq_ok_true_iff {signed : SignedTransaction} :
    signed.verify suite = .ok true ↔
      ∃ message, signed.signable.signingMessage = .ok message ∧
        ∀ proof ∈ signed.authenticator.proofs, proof.verify suite message = .ok true := by
  rw [verify, Error.bind_eq_ok_iff]
  simp only [Authenticator.verify, Authenticator.verifyAll_eq_ok_true_iff]

/-! ## The way through the wire -/

theorem signable_decoded (signed : SignedTransaction) :
    signed.decoded.signable = signed.signable.decoded := by
  obtain ⟨transaction, authenticator⟩ := signed
  cases authenticator <;> rfl

theorem signingMessage_decoded (signable : Signable) :
    signable.decoded.signingMessage = signable.signingMessage := by
  unfold Signable.signingMessage
  rw [Signable.write_decoded, Signable.prehash_decoded]

theorem verify_decoded (signed : SignedTransaction) :
    signed.decoded.verify suite = signed.verify suite := by
  rw [verify, verify, signable_decoded, signingMessage_decoded]
  rfl

/-- What has a signing message can be written with its proofs. -/
theorem hasWireForm_of_signingMessage
    {signed : SignedTransaction}
    {message : Bytes}
    (signs : signed.signable.signingMessage = .ok message) :
    signed.HasWireForm := by
  obtain ⟨octets, written, _⟩ := Signable.signingMessage_eq_ok_iff.mp signs
  have form := Signable.isComplete_write_iff.mp ⟨octets, written⟩
  obtain ⟨transaction, authenticator⟩ := signed
  cases authenticator with
  | ed25519 | multiEd25519 | singleSender => exact form
  | multiAgent | feePayer =>
      refine ⟨form.1, ?_⟩
      have counted := form.2
      rwa [signable, Signable.secondary, List.length_map] at counted

/-- The signed transaction is written, read back from its octets with anything behind them, and
valid then. -/
def SurvivesWire (suite : Suite) (signed : SignedTransaction) : Prop :=
  ∃ octets, signed.write.result = .ok octets ∧
    ∀ rest, ∃ other, read (octets ++ rest) = .ok other rest ∧ other.verify suite = .ok true

/-- A valid signed transaction goes through the wire, unless a type stands in place of an
address. -/
theorem survivesWire
    {signed : SignedTransaction}
    (valid : signed.verify suite = .ok true)
    (holdsAddresses : signed.HoldsAddresses) :
    signed.SurvivesWire suite := by
  obtain ⟨message, signs, _⟩ := verify_eq_ok_true_iff.mp valid
  have form := hasWireForm_of_signingMessage signs
  refine ⟨_, Emission.result_eq_ok_iff.mpr (write_carries form), ?_⟩
  intro rest
  exact ⟨signed.decoded, read_written form holdsAddresses rest, by rw [verify_decoded, valid]⟩

end SignedTransaction

end MoveClient
