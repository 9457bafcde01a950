import MoveClient.Key.Suite
import MoveClient.Proofs.Key.Spelling

/-!
What is assumed of signature schemes.

Owns:
- `Suite.AcceptsOwn`: public keys accept the signatures of their private keys;
- `Suite.AcceptsOneMessage`: a key accepts a signature for one message at most;
- `Suite.honest`, which makes the signatures of a suite and accepts no others, and only for messages
  that are allowed; it has both properties.

Does not own: what follows for transactions.
-/

namespace MoveClient

/-- The key is of one of the schemes that sign transactions. -/
def PrivateKey.SignsTransactions (key : PrivateKey) : Prop :=
  key.scheme = .ed25519 ∨ key.scheme = .ecdsa .secp256k1

namespace Suite

/-- Every public key of the schemes that sign transactions accepts what its private key signs. -/
def AcceptsOwn (suite : Suite) : Prop :=
  ∀ (key : PrivateKey) (message : Bytes), key.SignsTransactions →
    (key.publicKey suite).verify suite message (key.sign suite message) = .ok true

/-- No key accepts one signature for two messages. -/
def AcceptsOneMessage (suite : Suite) : Prop :=
  ∀ (key : SingleKey) (signature : SingleSignature) (message other : Bytes),
    key.verify suite message signature = .ok true →
      key.verify suite other signature = .ok true → message = other

end Suite

/-! ## The lower half of the scalars -/

namespace EcdsaSignature

theorem parts_ofParts (r s : Nat) :
    parts (ofParts r s) = (r % 256 ^ (32 : Nat), s % 256 ^ (32 : Nat)) := by
  have firstLength : (Bytes.bigEndian 32 r).length = 32 := Bytes.bigEndian_length 32 r
  rw [parts, ofParts, List.take_left' firstLength, List.drop_left' firstLength,
    Bytes.ofBigEndian_bigEndian, Bytes.ofBigEndian_bigEndian]

/-- Of the two signatures that differ in the sign of a scalar, the one in the lower half is made. -/
theorem isLow_normalize
    {order : Nat}
    (bounded : order < 256 ^ (32 : Nat))
    (signature : Octets 64) :
    isLow order (normalize order signature) = true := by
  unfold isLow normalize
  simp only [decide_eq_true_eq]
  split
  · rename_i high
    have small : order - (parts signature).2 < 256 ^ (32 : Nat) := by omega
    rw [parts_ofParts, Nat.mod_eq_of_lt small]
    show order - (parts signature).2 ≤ order / 2
    omega
  · omega

end EcdsaSignature

/-! ## A suite that accepts its own signatures only -/

namespace Suite

open Classical in
/-- The keys and signatures of `base`. A signature is accepted for an allowed message if it is the
one that the private key of the public key makes for this message. -/
noncomputable def honest (base : Suite) (allowed : Bytes → Prop) : Suite where
  ed25519Public := base.ed25519Public
  ed25519Sign := base.ed25519Sign
  ed25519Verify key message signature :=
    decide (allowed message ∧ ∃ seed, key = base.ed25519Public seed ∧
      signature = base.ed25519Sign seed message)
  ecdsaPublic := base.ecdsaPublic
  ecdsaSign := base.ecdsaSign
  ecdsaVerify {curve} key message r s :=
    decide (allowed message ∧ ∃ secret, key = base.ecdsaPublic secret ∧
      (r, s) = EcdsaSignature.parts (EcdsaSignature.normalize curve.order
        (EcdsaSignature.ofParts (base.ecdsaSign secret message).1
          (base.ecdsaSign secret message).2)))

variable {base : Suite} {allowed : Bytes → Prop}

theorem honest_ed25519Verify_iff
    {key : Octets 32}
    {message : Bytes}
    {signature : Octets 64} :
    (honest base allowed).ed25519Verify key message signature = true ↔
      allowed message ∧ ∃ seed, key = base.ed25519Public seed ∧
        signature = base.ed25519Sign seed message := by
  simp only [honest, decide_eq_true_eq]

theorem honest_ecdsaVerify_iff
    {curve : Curve}
    {key : EcdsaPublicKey curve}
    {message : Bytes}
    {r s : Nat} :
    (honest base allowed).ecdsaVerify key message r s = true ↔
      allowed message ∧ ∃ secret, key = base.ecdsaPublic secret ∧
        (r, s) = EcdsaSignature.parts (EcdsaSignature.normalize curve.order
          (EcdsaSignature.ofParts (base.ecdsaSign secret message).1
            (base.ecdsaSign secret message).2)) := by
  simp only [honest, decide_eq_true_eq]

/-- For an allowed message, a key accepts what its private key signs. -/
theorem honest_accepts
    {key : PrivateKey}
    {message : Bytes}
    (isAllowed : allowed message)
    (signs : key.SignsTransactions) :
    (key.publicKey (honest base allowed)).verify (honest base allowed) message
      (key.sign (honest base allowed) message) = .ok true := by
  cases key with
  | ed25519 seed =>
      exact congrArg Except.ok (honest_ed25519Verify_iff.mpr ⟨isAllowed, seed, rfl, rfl⟩)
  | ecdsa curve secret =>
      rcases signs with signs | signs <;> cases signs
      apply congrArg Except.ok
      rw [Bool.and_eq_true]
      refine ⟨EcdsaSignature.isLow_normalize (by decide) _, ?_⟩
      exact honest_ecdsaVerify_iff.mpr ⟨isAllowed, secret, rfl, rfl⟩

theorem honest_acceptsOwn : (honest base fun _ => True).AcceptsOwn :=
  fun _ _ signs => honest_accepts trivial signs

/-- What is accepted is accepted for an allowed message. -/
theorem allowed_of_honest_verify
    {key : SingleKey}
    {signature : SingleSignature}
    {message : Bytes}
    (accepted : key.verify (honest base allowed) message signature = .ok true) :
    allowed message := by
  unfold SingleKey.verify at accepted
  split at accepted
  case h_1 => exact (honest_ed25519Verify_iff.mp (Except.ok.inj accepted)).1
  case h_2 | h_3 =>
    have both := Except.ok.inj accepted
    rw [Bool.and_eq_true] at both
    exact (honest_ecdsaVerify_iff.mp both.2).1
  case h_4 | h_5 => cases accepted

theorem honest_acceptsOneMessage (only : Bytes) : (honest base (· = only)).AcceptsOneMessage := by
  intro key signature message other accepted otherAccepted
  rw [allowed_of_honest_verify accepted, allowed_of_honest_verify otherAccepted]

end Suite

end MoveClient
