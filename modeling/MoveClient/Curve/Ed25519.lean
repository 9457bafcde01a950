import MoveClient.Curve.Edwards
import MoveClient.Hash.Sha512

/-!
Ed25519 signatures.

A signature is a point `R` and a scalar `S`. Verification refuses a scalar that is not below the
order, a point `R` or a key of small order, and a key that is not canonical or not on the curve;
then `S * B - h * A` has to be spelled exactly as `R`.
-/

namespace MoveClient.Ed25519

/-- The scalar of a private seed: the first half of its digest with the bits fixed that the scheme
fixes. -/
def scalar (seed : Bytes) : Nat :=
  let low := Bytes.ofLittleEndian ((Sha512.hash seed).take 32)
  low % 2 ^ (254 : Nat) / 8 * 8 + 2 ^ (254 : Nat)

/-- The public key of a private seed. -/
def publicKey (seed : Bytes) : Bytes :=
  Edwards.encode (Edwards.multiply 256 (scalar seed) Edwards.base)

/-- A digest as a scalar. -/
def digestScalar (input : Bytes) : Nat :=
  Bytes.ofLittleEndian (Sha512.hash input) % Edwards.order

/-- The signature of a message. -/
def sign (seed message : Bytes) : Bytes :=
  let secret := scalar seed
  let key := Edwards.encode (Edwards.multiply 256 secret Edwards.base)
  let nonce := digestScalar ((Sha512.hash seed).drop 32 ++ message)
  let r := Edwards.encode (Edwards.multiply 256 nonce Edwards.base)
  let challenge := digestScalar (r ++ key ++ message)
  r ++ Bytes.littleEndian 32 ((nonce + challenge * secret) % Edwards.order)

/-- Whether a signature of a message is valid for a public key. -/
def verify (key message signature : Bytes) : Bool :=
  let r := signature.take 32
  let s := Bytes.ofLittleEndian (signature.drop 32)
  if Edwards.order ≤ s || Edwards.hasSmallOrder r || !Edwards.isCanonical key ||
      Edwards.hasSmallOrder key then false
  else
    match Edwards.decode? key with
    | none => false
    | some point =>
        let challenge := digestScalar (r ++ key ++ message)
        let expected := Edwards.add (Edwards.multiply 256 s Edwards.base)
          (Edwards.multiply 256 challenge (Edwards.negate point))
        Edwards.encode expected == r

/-- A public key has 32 octets. -/
@[simp] theorem publicKey_length (seed : Bytes) : (publicKey seed).length = 32 := by
  simp [publicKey, Edwards.encode]

/-- A signature has 64 octets. -/
@[simp] theorem sign_length (seed message : Bytes) : (sign seed message).length = 64 := by
  simp [sign, Edwards.encode]

end MoveClient.Ed25519
