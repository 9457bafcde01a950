import MoveClient.Codec.Emission
import MoveClient.Key.Octets

/-!
Keys and signatures of one scheme.

An Ed25519 or SLH-DSA key is any 32 octets; an ECDSA public key is a point of its curve and a
private one a scalar between zero and the order. Public keys, private keys and signatures are
written behind their length. An ECDSA public key is written with the octet `4` in front and read
with or without it.
-/

namespace MoveClient

/-- A point of a curve, as a public key. -/
structure EcdsaPublicKey (curve : Curve) where
  x : Nat
  y : Nat
  on_curve : curve.contains x y = true
deriving DecidableEq, Repr

/-- A scalar between zero and the order, as a private key. -/
structure EcdsaPrivateKey (curve : Curve) where
  scalar : Nat
  positive : 0 < scalar
  below_order : scalar < curve.order
deriving DecidableEq, Repr

/-- A public key of one scheme. -/
inductive SingleKey where
  | ed25519 (key : Octets 32)
  | ecdsa (curve : Curve) (key : EcdsaPublicKey curve)
  | slhDsa (key : Octets 32)
deriving DecidableEq, Repr

/-- A signature of one scheme. -/
inductive SingleSignature where
  | ed25519 (signature : Octets 64)
  | ecdsa (curve : Curve) (signature : Octets 64)
  | slhDsa (signature : Octets 7856)
deriving DecidableEq, Repr

/-- A private key of a scheme that can sign. -/
inductive PrivateKey where
  | ed25519 (seed : Octets 32)
  | ecdsa (curve : Curve) (key : EcdsaPrivateKey curve)
deriving DecidableEq, Repr

/-- Octets of the length that a part of a scheme's key material has. -/
def Octets.expect (size : Nat) (scheme : KeyScheme) (part : KeyPart) (bytes : Bytes) :
    Except Error (Octets size) :=
  match Octets.ofBytes? size bytes with
  | some octets => .ok octets
  | none => .error (.keyFormat (.length scheme part bytes.length))

namespace EcdsaPublicKey

variable {curve : Curve}

/-- The octet `4` and both coordinates. -/
def bytes (key : EcdsaPublicKey curve) : Bytes :=
  4 :: (Bytes.bigEndian 32 key.x ++ Bytes.bigEndian 32 key.y)

/-- The coordinates without the octet `4` that may be in front of them. -/
def dropMarker (bytes : Bytes) : Bytes :=
  match bytes with
  | 4 :: rest => if rest.length = 64 then rest else bytes
  | _ => bytes

/-- The point whose coordinates are spelled, with or without the octet `4` in front. -/
def ofBytes (curve : Curve) (bytes : Bytes) : Except Error (EcdsaPublicKey curve) :=
  let coordinates := dropMarker bytes
  if coordinates.length = 64 then
    let x := Bytes.ofBigEndian (coordinates.take 32)
    let y := Bytes.ofBigEndian (coordinates.drop 32)
    if h : curve.contains x y = true then .ok ⟨x, y, h⟩
    else .error (.keyFormat (.notOnCurve curve))
  else .error (.keyFormat (.length (.ecdsa curve) .publicKey coordinates.length))

/-- The generator is a point of the curve. -/
theorem contains_generator (curve : Curve) :
    curve.contains curve.generator.1 curve.generator.2 = true := by
  cases curve <;> decide +kernel

/-- The generator of the curve. -/
def generator (curve : Curve) : EcdsaPublicKey curve :=
  ⟨curve.generator.1, curve.generator.2, contains_generator curve⟩

end EcdsaPublicKey

namespace EcdsaPrivateKey

variable {curve : Curve}

/-- The scalar in 32 octets. -/
def bytes (key : EcdsaPrivateKey curve) : Bytes :=
  Bytes.bigEndian 32 key.scalar

/-- The private key spelled by 32 octets. -/
def ofBytes (curve : Curve) (bytes : Bytes) : Except Error (EcdsaPrivateKey curve) :=
  if bytes.length = 32 then
    let scalar := Bytes.ofBigEndian bytes
    if h : 0 < scalar ∧ scalar < curve.order then .ok ⟨scalar, h.1, h.2⟩
    else .error (.keyFormat (.scalarOutOfRange curve))
  else .error (.keyFormat (.length (.ecdsa curve) .privateKey bytes.length))

end EcdsaPrivateKey

namespace SingleKey

/-- The scheme of the key. -/
def scheme : SingleKey → KeyScheme
  | ed25519 _ => .ed25519
  | ecdsa curve _ => .ecdsa curve
  | slhDsa _ => .slhDsa

/-- The octets that spell the key. -/
def bytes : SingleKey → Bytes
  | ed25519 key => key.bytes
  | ecdsa _ key => key.bytes
  | slhDsa key => key.bytes

/-- The key of a scheme that octets spell. -/
def ofBytes : KeyScheme → Bytes → Except Error SingleKey
  | .ed25519, bytes => ed25519 <$> Octets.expect 32 .ed25519 .publicKey bytes
  | .ecdsa curve, bytes => ecdsa curve <$> EcdsaPublicKey.ofBytes curve bytes
  | .slhDsa, bytes => slhDsa <$> Octets.expect 32 .slhDsa .publicKey bytes

/-- The printed form. -/
def text (key : SingleKey) : String :=
  "0x" ++ key.bytes.hex

/-- Writes the key. -/
def write (key : SingleKey) : Emission :=
  .bytes key.bytes

/-- Reads a key of a scheme. -/
def read (scheme : KeyScheme) : Reader SingleKey := do
  let spelled ← Reader.bytes
  match ofBytes scheme spelled with
  | .ok key => pure key
  | .error error => throw error

/-- The number of the key's scheme among wrapped keys. -/
def variant : SingleKey → Nat
  | ed25519 _ => 0
  | ecdsa .secp256k1 _ => 1
  | ecdsa .secp256r1 _ => 2
  | slhDsa _ => 5

/-- Writes the key behind the number of its scheme. -/
def writeWrapped (key : SingleKey) : Emission :=
  .length key.variant ++ key.write

/-- Reads a key behind the number of its scheme. -/
def readWrapped : Reader SingleKey := do
  match ← Reader.length with
  | 0 => read .ed25519
  | 1 => read (.ecdsa .secp256k1)
  | 2 => read (.ecdsa .secp256r1)
  | 3 => throw (.unsupported (.placeholder .keylessKey))
  | 4 => throw (.unsupported (.placeholder .federatedKeylessKey))
  | 5 => read .slhDsa
  | variant => throw (.codec (.unknownVariant .anyPublicKey variant))

end SingleKey

namespace SingleSignature

/-- The scheme of the signature. -/
def scheme : SingleSignature → KeyScheme
  | ed25519 _ => .ed25519
  | ecdsa curve _ => .ecdsa curve
  | slhDsa _ => .slhDsa

/-- The octets that spell the signature. -/
def bytes : SingleSignature → Bytes
  | ed25519 signature | ecdsa _ signature => signature.bytes
  | slhDsa signature => signature.bytes

/-- The signature of a scheme that octets spell. -/
def ofBytes : KeyScheme → Bytes → Except Error SingleSignature
  | .ed25519, bytes => ed25519 <$> Octets.expect 64 .ed25519 .signature bytes
  | .ecdsa curve, bytes => ecdsa curve <$> Octets.expect 64 (.ecdsa curve) .signature bytes
  | .slhDsa, bytes => slhDsa <$> Octets.expect 7856 .slhDsa .signature bytes

/-- The signature of a scheme whose octets are all zero. -/
def zero : KeyScheme → SingleSignature
  | .ed25519 => ed25519 (.zero 64)
  | .ecdsa curve => ecdsa curve (.zero 64)
  | .slhDsa => slhDsa (.zero 7856)

/-- The printed form. -/
def text (signature : SingleSignature) : String :=
  "0x" ++ signature.bytes.hex

/-- Writes the signature. -/
def write (signature : SingleSignature) : Emission :=
  .bytes signature.bytes

/-- Reads a signature of a scheme. -/
def read (scheme : KeyScheme) : Reader SingleSignature := do
  let spelled ← Reader.bytes
  match ofBytes scheme spelled with
  | .ok signature => pure signature
  | .error error => throw error

end SingleSignature

/-- A signature of a scheme whose signatures may be wrapped. -/
inductive WrappedSignature where
  | ed25519 (signature : Octets 64)
  | secp256k1 (signature : Octets 64)
  | slhDsa (signature : Octets 7856)
deriving DecidableEq, Repr

namespace WrappedSignature

/-- The signature without its wrapping. -/
def inner : WrappedSignature → SingleSignature
  | ed25519 signature => .ed25519 signature
  | secp256k1 signature => .ecdsa .secp256k1 signature
  | slhDsa signature => .slhDsa signature

/-- Wraps a signature; one over secp256r1 is only accepted inside an assertion of another kind. -/
def ofSingle : SingleSignature → Except Error WrappedSignature
  | .ed25519 signature => .ok (ed25519 signature)
  | .ecdsa .secp256k1 signature => .ok (secp256k1 signature)
  | .ecdsa .secp256r1 _ => .error (.unsupported .bareSecp256r1Signature)
  | .slhDsa signature => .ok (slhDsa signature)

/-- The number of the signature's scheme among wrapped signatures. -/
def variant : WrappedSignature → Nat
  | ed25519 _ => 0
  | secp256k1 _ => 1
  | slhDsa _ => 4

/-- Writes the signature behind the number of its scheme. -/
def write (signature : WrappedSignature) : Emission :=
  .length signature.variant ++ signature.inner.write

/-- Reads a signature of a scheme and wraps it. -/
def readScheme (scheme : KeyScheme) : Reader WrappedSignature := do
  let signature ← SingleSignature.read scheme
  match ofSingle signature with
  | .ok wrapped => pure wrapped
  | .error error => throw error

/-- Reads a signature behind the number of its scheme. -/
def read : Reader WrappedSignature := do
  match ← Reader.length with
  | 0 => readScheme .ed25519
  | 1 => readScheme (.ecdsa .secp256k1)
  | 2 => throw (.unsupported (.placeholder .webAuthnSignature))
  | 3 => throw (.unsupported (.placeholder .keylessSignature))
  | 4 => readScheme .slhDsa
  | variant => throw (.codec (.unknownVariant .anySignature variant))

end WrappedSignature

namespace PrivateKey

/-- The scheme of the key. -/
def scheme : PrivateKey → KeyScheme
  | ed25519 _ => .ed25519
  | ecdsa curve _ => .ecdsa curve

/-- The 32 octets that spell the key. -/
def bytes : PrivateKey → Bytes
  | ed25519 seed => seed.bytes
  | ecdsa _ key => key.bytes

/-- The private key of a scheme that octets spell. -/
def ofBytes : KeyScheme → Bytes → Except Error PrivateKey
  | .ed25519, bytes => ed25519 <$> Octets.expect 32 .ed25519 .privateKey bytes
  | .ecdsa curve, bytes => ecdsa curve <$> EcdsaPrivateKey.ofBytes curve bytes
  | .slhDsa, _ => .error .wrongKind

/-- Writes the key. -/
def write (key : PrivateKey) : Emission :=
  .bytes key.bytes

/-- Reads a key of a scheme. -/
def read (scheme : KeyScheme) : Reader PrivateKey := do
  let spelled ← Reader.bytes
  match ofBytes scheme spelled with
  | .ok key => pure key
  | .error error => throw error

end PrivateKey

end MoveClient
