import MoveClient.Curve.Ecdsa
import MoveClient.Curve.Ed25519
import MoveClient.Key.Public

/-!
Signing and verifying.

What the schemes compute is gathered in a `Suite`, so that statements about keys can be made for
any computation; `Suite.standard` is the one the ledger uses. ECDSA signatures are kept in the
half of the scalars up to half the order: signing brings them there, and verifying refuses the
others.
-/

namespace MoveClient

/-- The computations of the signature schemes. -/
structure Suite where
  ed25519Public : Octets 32 → Octets 32
  ed25519Sign : Octets 32 → Bytes → Octets 64
  ed25519Verify : Octets 32 → Bytes → Octets 64 → Bool
  ecdsaPublic : {curve : Curve} → EcdsaPrivateKey curve → EcdsaPublicKey curve
  ecdsaSign : {curve : Curve} → EcdsaPrivateKey curve → Bytes → Nat × Nat
  ecdsaVerify : {curve : Curve} → EcdsaPublicKey curve → Bytes → (r s : Nat) → Bool

/-- The public point of a private scalar; a scalar below the order, not zero, always has one. -/
def EcdsaPrivateKey.point {curve : Curve} (key : EcdsaPrivateKey curve) : EcdsaPublicKey curve :=
  match curve.ofScalar? key.scalar with
  | some (x, y) =>
      if h : curve.contains x y = true then ⟨x, y, h⟩ else EcdsaPublicKey.generator curve
  | none => EcdsaPublicKey.generator curve

/-- The computations that the ledger uses. -/
def Suite.standard : Suite where
  ed25519Public seed := ⟨Ed25519.publicKey seed.bytes, by simp⟩
  ed25519Sign seed message := ⟨Ed25519.sign seed.bytes message, by simp⟩
  ed25519Verify key message signature := Ed25519.verify key.bytes message signature.bytes
  ecdsaPublic key := key.point
  ecdsaSign {curve} key message := Ecdsa.sign curve key.scalar message
  ecdsaVerify {curve} key message r s := Ecdsa.verify curve (key.x, key.y) message r s

namespace EcdsaSignature

/-- The two numbers of a signature. -/
def parts (signature : Octets 64) : Nat × Nat :=
  (Bytes.ofBigEndian (signature.bytes.take 32), Bytes.ofBigEndian (signature.bytes.drop 32))

/-- The signature of two numbers, 32 octets each. -/
def ofParts (r s : Nat) : Octets 64 :=
  ⟨Bytes.bigEndian 32 r ++ Bytes.bigEndian 32 s, by simp⟩

/-- Whether the second number is at most half the order. -/
def isLow (order : Nat) (signature : Octets 64) : Bool :=
  (parts signature).2 ≤ order / 2

/-- The signature whose second number is at most half the order, of the two that differ in its
sign. -/
def normalize (order : Nat) (signature : Octets 64) : Octets 64 :=
  let (r, s) := parts signature
  if order / 2 < s then ofParts r (order - s) else signature

end EcdsaSignature

namespace PrivateKey

/-- The public key of a private key. -/
def publicKey (suite : Suite) : PrivateKey → SingleKey
  | ed25519 seed => .ed25519 (suite.ed25519Public seed)
  | ecdsa curve key => .ecdsa curve (suite.ecdsaPublic key)

/-- The signature of a message. -/
def sign (suite : Suite) (message : Bytes) : PrivateKey → SingleSignature
  | ed25519 seed => .ed25519 (suite.ed25519Sign seed message)
  | ecdsa curve key =>
      let (r, s) := suite.ecdsaSign key message
      .ecdsa curve (EcdsaSignature.normalize curve.order (EcdsaSignature.ofParts r s))

end PrivateKey

namespace SingleKey

/-- Whether a signature of a message is valid for the key. One of another scheme is not;
SLH-DSA signatures cannot be checked. -/
def verify (suite : Suite) (message : Bytes) : SingleKey → SingleSignature → Except Error Bool
  | ed25519 key, .ed25519 signature => .ok (suite.ed25519Verify key message signature)
  | ecdsa .secp256k1 key, .ecdsa .secp256k1 signature =>
      let (r, s) := EcdsaSignature.parts signature
      .ok (EcdsaSignature.isLow Curve.secp256k1.order signature && suite.ecdsaVerify key message r s)
  | ecdsa .secp256r1 key, .ecdsa .secp256r1 signature =>
      let (r, s) := EcdsaSignature.parts signature
      .ok (EcdsaSignature.isLow Curve.secp256r1.order signature && suite.ecdsaVerify key message r s)
  | slhDsa _, _ => .error (.unsupported .slhDsaVerification)
  | _, _ => .ok false

/-- What verifying a signature of another kind than a single one gives. -/
def refuse : SingleKey → Except Error Bool
  | slhDsa _ => .error (.unsupported .slhDsaVerification)
  | _ => .ok false

end SingleKey

namespace MultiEd25519Key

/-- Whether enough keys signed and every signature is valid. -/
def verify (suite : Suite) (message : Bytes) (key : MultiEd25519Key)
    (signature : MultiEd25519Signature) : Except Error Bool :=
  acceptsThreshold (fun member inner => .ok (suite.ed25519Verify member message inner)) key.keys
    key.threshold signature.entries

end MultiEd25519Key

namespace MultiKey

/-- Whether enough keys signed and every signature is valid. -/
def verify (suite : Suite) (message : Bytes) (key : MultiKey)
    (signature : MultiKeySignature) : Except Error Bool :=
  acceptsThreshold (fun member inner => member.verify suite message inner.inner) key.keys
    key.threshold signature.entries

end MultiKey

namespace PublicKey

/-- Whether a signature of a message is valid for the key; one of another kind is not, but a
wrapped key also takes a bare signature. -/
def verify (suite : Suite) (message : Bytes) : PublicKey → Signature → Except Error Bool
  | bare key, .bare signature => key.verify suite message signature
  | wrapped key, .bare signature => key.verify suite message signature
  | wrapped key, .wrapped signature => key.verify suite message signature.inner
  | bare key, _ | wrapped key, _ => key.refuse
  | multiEd25519 key, .multiEd25519 signature => key.verify suite message signature
  | multiKey key, .multiKey signature => key.verify suite message signature
  | _, _ => .ok false

end PublicKey

end MoveClient
