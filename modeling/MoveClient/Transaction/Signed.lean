import MoveClient.Transaction.Authenticator
import MoveClient.Transaction.Raw

/-!
Signing transactions, and transactions with their proofs.

An Ed25519 key signs into the older form of proof, every other key into the one with a wrapped
key. For a simulation the signatures are all zero. Which accounts a signed transaction says to
take part is read off its proofs, so the message that is checked is the one that was signed.
-/

namespace MoveClient

namespace PrivateKey

/-- The proof by this key for a message. -/
def prove (suite : Suite) (message : Bytes) : PrivateKey → Except Error AccountAuthenticator
  | ed25519 seed => .ok (.ed25519 (suite.ed25519Public seed) (suite.ed25519Sign seed message))
  | key => do
      let signature ← WrappedSignature.ofSingle (key.sign suite message)
      .ok (.singleKey (key.publicKey suite) signature)

end PrivateKey

namespace SingleKey

/-- The signature that stands for one by this key in a simulation: all zero. -/
def simulated (key : SingleKey) : Except Error WrappedSignature :=
  match key with
  | ed25519 _ => .ok (.ed25519 (.zero 64))
  | ecdsa .secp256k1 _ => .ok (.secp256k1 (.zero 64))
  | slhDsa _ => .ok (.slhDsa (.zero 7856))
  | ecdsa .secp256r1 _ => .error (.unsupported (.simulation "PublicKey"))

end SingleKey

namespace PublicKey

/-- The proof by this key in a simulation. Of a set of keys the first ones sign, as many as have
to. -/
def simulate : PublicKey → Except Error AccountAuthenticator
  | bare (.ed25519 key) => .ok (.ed25519 key (.zero 64))
  | bare key | wrapped key => do
      let signature ← key.simulated
      .ok (.singleKey key signature)
  | multiEd25519 key => do
      let entries := (List.range key.threshold).map fun position => (Int.ofNat position, .zero 64)
      let signature ← MultiEd25519Signature.make entries
      .ok (.multiEd25519 key signature)
  | multiKey key => do
      let signatures ← (key.keys.take key.threshold).mapM SingleKey.simulated
      let entries := signatures.zipIdx.map fun entry => (Int.ofNat entry.2, entry.1)
      let signature ← MultiKeySignature.make Except.ok entries
      .ok (.multiKey key signature)

end PublicKey

namespace Signable

/-- The proof by a key for what is to be signed. -/
def sign (suite : Suite) (signable : Signable) (key : PrivateKey) :
    Except Error AccountAuthenticator := do
  let message ← signable.signingMessage
  key.prove suite message

/-- Whether a signature by a key is valid for what is to be signed. -/
def verify (suite : Suite) (signable : Signable) (key : PublicKey) (signature : Signature) :
    Except Error Bool := do
  let message ← signable.signingMessage
  key.verify suite message signature

end Signable

/-- A transaction with the proofs of all accounts that take part. -/
structure SignedTransaction where
  transaction : RawTransaction
  authenticator : Authenticator
deriving Repr

namespace SignedTransaction

/-- Whether transactions and proofs are equal. -/
def same (left right : SignedTransaction) : Bool :=
  left.transaction.same right.transaction && left.authenticator == right.authenticator

/-- The printed form. -/
def text (signed : SignedTransaction) : String :=
  "Transaction: " ++ signed.transaction.text ++ "Authenticator: " ++ signed.authenticator.text

/-- Writes the transaction and the proofs. -/
def write (signed : SignedTransaction) : Emission :=
  signed.transaction.write ++ signed.authenticator.write

/-- Reads the transaction and the proofs. -/
def read : Reader SignedTransaction := do
  let transaction ← RawTransaction.read
  let authenticator ← Authenticator.read
  pure { transaction, authenticator }

/-- The digest in front of a transaction in its hash. -/
def hashPrefix : Bytes :=
  Sha3.hash (Emission.textOctets "APTOS::Transaction")

/-- The hash that the ledger knows the transaction by. The zero octet is the number of
transactions that are sent by accounts. -/
def hash (signed : SignedTransaction) : Except Error String := do
  let octets ← signed.write.result
  .ok ("0x" ++ (Sha3.hash (hashPrefix ++ 0 :: octets)).hex)

/-- What the signers signed, going by the proofs. -/
def signable (signed : SignedTransaction) : Signable :=
  match signed.authenticator with
  | .multiAgent _ secondary => .multiAgent signed.transaction (secondary.map Prod.fst)
  | .feePayer _ secondary payer =>
      .feePayer signed.transaction (secondary.map Prod.fst) (some payer.1)
  | _ => .plain signed.transaction

/-- Whether all proofs are valid for what the signers signed. -/
def verify (suite : Suite) (signed : SignedTransaction) : Except Error Bool := do
  let message ← signed.signable.signingMessage
  signed.authenticator.verify suite message

end SignedTransaction

end MoveClient
