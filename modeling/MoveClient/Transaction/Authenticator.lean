import MoveClient.Address.Text
import MoveClient.Key.Suite
import MoveClient.TypeTag.Codec
import MoveClient.Value.Printed

/-!
Proofs that accounts agree to a transaction.

An account's proof is a key and a signature of one of four kinds, or the placeholder of an account
that has not signed, which is never valid. A transaction carries the proof of its sender, with the
proofs of the secondary signers and of the fee payer where there are any; the two older kinds of a
lone sender have a form of their own.
-/

namespace MoveClient

/-- The proof of one account. -/
inductive AccountAuthenticator where
  | ed25519 (key : Octets 32) (signature : Octets 64)
  | multiEd25519 (key : MultiEd25519Key) (signature : MultiEd25519Signature)
  | singleKey (key : SingleKey) (signature : WrappedSignature)
  | multiKey (key : MultiKey) (signature : MultiKeySignature)
  | absent
deriving DecidableEq, Repr

/-- The proofs of all accounts that take part in a transaction. -/
inductive Authenticator where
  | ed25519 (key : Octets 32) (signature : Octets 64)
  | multiEd25519 (key : MultiEd25519Key) (signature : MultiEd25519Signature)
  | multiAgent (sender : AccountAuthenticator) (secondary : List (Address × AccountAuthenticator))
  | feePayer (sender : AccountAuthenticator) (secondary : List (Address × AccountAuthenticator))
      (payer : Address × AccountAuthenticator)
  | singleSender (sender : AccountAuthenticator)
deriving DecidableEq, Repr

namespace AccountAuthenticator

/-- The key of the proof. -/
def publicKey? : AccountAuthenticator → Option PublicKey
  | ed25519 key _ => some (.bare (.ed25519 key))
  | multiEd25519 key _ => some (.multiEd25519 key)
  | singleKey key _ => some (.wrapped key)
  | multiKey key _ => some (.multiKey key)
  | absent => none

/-- The signature of the proof. -/
def signature? : AccountAuthenticator → Option Signature
  | ed25519 _ signature => some (.bare (.ed25519 signature))
  | multiEd25519 _ signature => some (.multiEd25519 signature)
  | singleKey _ signature => some (.wrapped signature)
  | multiKey _ signature => some (.multiKey signature)
  | absent => none

/-- The proof by a key and a signature of one scheme or wrapped ones. -/
def single (key : PublicKey) (signature : Signature) : Except Error AccountAuthenticator := do
  let member ← key.single
  let wrapped ← signature.toWrapped
  .ok (singleKey member wrapped)

/-- The number of the kind on the wire. -/
def variant : AccountAuthenticator → Nat
  | ed25519 .. => 0
  | multiEd25519 .. => 1
  | singleKey .. => 2
  | multiKey .. => 3
  | absent => 4

/-- What the printed forms of keys and signatures are put behind. -/
def labels : AccountAuthenticator → String × String
  | ed25519 .. => ("PublicKey: ", ", Signature: ")
  | multiEd25519 .. => ("MultiPublicKey: ", ", MultiSignature: ")
  | singleKey .. => ("SingleKey - PublicKey: ", ", Signature: ")
  | multiKey .. => ("MultiKey - PublicKey: ", ", Signature: ")
  | absent => ("NoAccountAuthenticator", "")

/-- The printed form. -/
def text (proof : AccountAuthenticator) : String :=
  proof.labels.1 ++ (proof.publicKey?.map PublicKey.text).getD "" ++ proof.labels.2 ++
    (proof.signature?.map Signature.text).getD ""

/-- Writes key and signature. -/
def writeParts : AccountAuthenticator → Emission
  | ed25519 key signature => .bytes key.bytes ++ .bytes signature.bytes
  | multiEd25519 key signature => key.write ++ signature.write
  | singleKey key signature => key.writeWrapped ++ signature.write
  | multiKey key signature => key.write ++ signature.write
  | absent => .complete []

/-- Writes the number of the kind, key and signature. -/
def write (proof : AccountAuthenticator) : Emission :=
  .length proof.variant ++ proof.writeParts

/-- Reads octets of a length behind that length. -/
def readOctets (size : Nat) (part : KeyPart) : Reader (Octets size) := do
  let spelled ← Reader.bytes
  match Octets.expect size .ed25519 part spelled with
  | .ok octets => pure octets
  | .error error => throw error

/-- Reads an Ed25519 key and signature. -/
def readEd25519 : Reader (Octets 32 × Octets 64) := do
  let key ← readOctets 32 .publicKey
  let signature ← readOctets 64 .signature
  pure (key, signature)

/-- Reads a set of Ed25519 keys and their signatures. -/
def readMultiEd25519 : Reader (MultiEd25519Key × MultiEd25519Signature) := do
  let key ← MultiEd25519Key.read
  let signature ← MultiEd25519Signature.read
  pure (key, signature)

/-- Reads the number of the kind, key and signature. -/
def read : Reader AccountAuthenticator := do
  match ← Reader.length with
  | 0 => (fun parts => ed25519 parts.1 parts.2) <$> readEd25519
  | 1 => (fun parts => multiEd25519 parts.1 parts.2) <$> readMultiEd25519
  | 2 => do
      let key ← SingleKey.readWrapped
      let signature ← WrappedSignature.read
      pure (singleKey key signature)
  | 3 => do
      let key ← MultiKey.read
      let signature ← MultiKeySignature.read
      pure (multiKey key signature)
  | 4 => pure absent
  | variant => throw (.codec (.unknownVariant .accountAuthenticator variant))

/-- Whether the signature of a message is valid; the placeholder's never is. -/
def verify (suite : Suite) (message : Bytes) : AccountAuthenticator → Except Error Bool
  | ed25519 key signature => .ok (suite.ed25519Verify key message signature)
  | multiEd25519 key signature => key.verify suite message signature
  | singleKey key signature => key.verify suite message signature.inner
  | multiKey key signature => key.verify suite message signature
  | absent => .ok false

end AccountAuthenticator

namespace Authenticator

/-- The proof of a lone sender at the level of the transaction. -/
def ofAccount : AccountAuthenticator → Authenticator
  | .ed25519 key signature => ed25519 key signature
  | .multiEd25519 key signature => multiEd25519 key signature
  | proof => singleSender proof

/-- The proof of the sender. -/
def sender : Authenticator → AccountAuthenticator
  | ed25519 key signature => .ed25519 key signature
  | multiEd25519 key signature => .multiEd25519 key signature
  | multiAgent proof _ | feePayer proof _ _ | singleSender proof => proof

/-- The number of the kind that a transaction signed by a lone sender with this key gets. -/
def variantOfKey : PublicKey → Nat
  | .bare (.ed25519 _) => 0
  | .multiEd25519 _ => 1
  | _ => 4

/-- The number of the kind on the wire. -/
def variant : Authenticator → Nat
  | ed25519 .. => 0
  | multiEd25519 .. => 1
  | multiAgent .. => 2
  | feePayer .. => 3
  | singleSender _ => 4

/-- The printed form of an account with its proof. -/
def signerText (signer : Address × AccountAuthenticator) : String :=
  "(" ++ signer.1.text ++ ", " ++ signer.2.text ++ ")"

/-- The printed form of secondary signers. -/
def secondaryText (secondary : List (Address × AccountAuthenticator)) : String :=
  "[" ++ Value.joined (secondary.map signerText) ++ "]"

/-- The printed form. -/
def text : Authenticator → String
  | ed25519 key signature => (AccountAuthenticator.ed25519 key signature).text
  | multiEd25519 key signature => (AccountAuthenticator.multiEd25519 key signature).text
  | multiAgent proof secondary =>
      "MultiAgent: \n\tSender: " ++ proof.text ++ "\n\tSecondary Signers: " ++
        secondaryText secondary
  | feePayer proof secondary payer =>
      "FeePayer: \n\tSender: " ++ proof.text ++ "\n\tSecondary Signers: " ++
        secondaryText secondary ++ "\n\t" ++ signerText payer
  | singleSender proof => "SingleSender: " ++ proof.text

/-- Writes the addresses of secondary signers, then their proofs. -/
def writeSecondary (secondary : List (Address × AccountAuthenticator)) : Emission :=
  .sequence (secondary.map fun signer => signer.1.write) ++
    .sequence (secondary.map fun signer => signer.2.write)

/-- Reads addresses and proofs of secondary signers; there have to be as many of one as of the
other. -/
def readSecondary : Reader (List (Address × AccountAuthenticator)) := do
  let addresses ← Reader.sequence Address.read
  let proofs ← Reader.sequence AccountAuthenticator.read
  if addresses.length = proofs.length then pure (addresses.zip proofs)
  else throw (.codec (.signerCountMismatch addresses.length proofs.length))

/-- Writes the proofs. -/
def writeParts : Authenticator → Emission
  | ed25519 key signature => (AccountAuthenticator.ed25519 key signature).writeParts
  | multiEd25519 key signature => (AccountAuthenticator.multiEd25519 key signature).writeParts
  | multiAgent proof secondary => proof.write ++ writeSecondary secondary
  | feePayer proof secondary payer =>
      proof.write ++ writeSecondary secondary ++ payer.1.write ++ payer.2.write
  | singleSender proof => proof.write

/-- Writes the number of the kind and the proofs. -/
def write (authenticator : Authenticator) : Emission :=
  .length authenticator.variant ++ authenticator.writeParts

/-- Reads the number of the kind and the proofs. -/
def read : Reader Authenticator := do
  match ← Reader.length with
  | 0 => (fun parts => ed25519 parts.1 parts.2) <$> AccountAuthenticator.readEd25519
  | 1 => (fun parts => multiEd25519 parts.1 parts.2) <$> AccountAuthenticator.readMultiEd25519
  | 2 => do
      let proof ← AccountAuthenticator.read
      let secondary ← readSecondary
      pure (multiAgent proof secondary)
  | 3 => do
      let proof ← AccountAuthenticator.read
      let secondary ← readSecondary
      let payerAddress ← Address.read
      let payerProof ← AccountAuthenticator.read
      pure (feePayer proof secondary (payerAddress, payerProof))
  | 4 => singleSender <$> AccountAuthenticator.read
  | variant => throw (.codec (.unknownVariant .transactionAuthenticator variant))

/-- Whether all proofs are valid; the first that is not decides. -/
def verifyAll (suite : Suite) (message : Bytes) : List AccountAuthenticator → Except Error Bool
  | [] => .ok true
  | proof :: rest => do
      if ← proof.verify suite message then verifyAll suite message rest else .ok false

/-- The proofs in the order in which they are checked: sender, fee payer, secondary signers. -/
def proofs : Authenticator → List AccountAuthenticator
  | ed25519 key signature => [.ed25519 key signature]
  | multiEd25519 key signature => [.multiEd25519 key signature]
  | multiAgent proof secondary => proof :: secondary.map Prod.snd
  | feePayer proof secondary payer => proof :: payer.2 :: secondary.map Prod.snd
  | singleSender proof => [proof]

/-- Whether the proofs of all accounts are valid for a message. -/
def verify (suite : Suite) (message : Bytes) (authenticator : Authenticator) :
    Except Error Bool :=
  verifyAll suite message authenticator.proofs

end Authenticator

end MoveClient
