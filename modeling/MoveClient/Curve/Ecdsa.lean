import MoveClient.Curve.Weierstrass
import MoveClient.Hash.Hmac

/-!
ECDSA over SHA3-256 with deterministic nonces.

The nonce of a signature is drawn from a generator keyed with the private key and the digest of
the message, so that signing twice gives the same signature. A signature is a pair `(r, s)`; the
pairs `(r, s)` and `(r, order - s)` are accepted alike here, and which of them is the standard one
is decided by the keys.
-/

namespace MoveClient.Ecdsa

/-- The state of the nonce generator. -/
structure Generator where
  key : Bytes
  value : Bytes

/-- Works input into the generator behind a separating octet. -/
def Generator.feed (generator : Generator) (separator : UInt8) (input : Bytes) : Generator :=
  let key := Hmac.hash generator.key (generator.value ++ separator :: input)
  ⟨key, Hmac.hash key generator.value⟩

/-- The generator for a private key and a digest, both spelled in 32 octets. -/
def Generator.start (secret digest : Bytes) : Generator :=
  let empty : Generator := ⟨List.replicate 32 0, List.replicate 32 1⟩
  (empty.feed 0 (secret ++ digest)).feed 1 (secret ++ digest)

/-- The next number of the generator. -/
def Generator.next (generator : Generator) : Nat × Generator :=
  let value := Hmac.hash generator.key generator.value
  (Bytes.ofBigEndian value, ⟨generator.key, value⟩)

/-- The pair for a nonce, if neither part is zero. -/
def pairFor (curve : Curve) (secret digest nonce : Nat) : Option (Nat × Nat) :=
  let n := curve.order
  match curve.ofScalar? nonce with
  | none => none
  | some (x, _) =>
      let r := x % n
      let s := Modular.inverse n nonce * ((digest + r * secret) % n) % n
      if r = 0 ∨ s = 0 then none else some (r, s)

/-- Draws nonces until one gives a pair; `tries` bounds their number. -/
def search (curve : Curve) (secret digest : Nat) : (tries : Nat) → Generator → Nat × Nat
  | 0, _ => (1, 1)
  | tries + 1, generator =>
      let (nonce, generator) := generator.next
      let pair? :=
        if 1 ≤ nonce ∧ nonce < curve.order then pairFor curve secret digest nonce else none
      match pair? with
      | some pair => pair
      | none => search curve secret digest tries (generator.feed 0 [])

/-- How many nonces are drawn at most; one is refused with a probability of about `2 ^ -32`. -/
def maxTries : Nat := 64

/-- The signature of a message under a private scalar. -/
def sign (curve : Curve) (secret : Nat) (message : Bytes) : Nat × Nat :=
  let digest := Bytes.ofBigEndian (Sha3.hash message)
  let generator := Generator.start (Bytes.bigEndian 32 secret)
    (Bytes.bigEndian 32 (if digest < curve.order then digest else digest - curve.order))
  search curve secret digest maxTries generator

/-- Whether a pair is a signature of a message for the public point. -/
def verify (curve : Curve) (point : Nat × Nat) (message : Bytes) (r s : Nat) : Bool :=
  let n := curve.order
  if r = 0 || n ≤ r || s = 0 || n ≤ s then false
  else
    let digest := Bytes.ofBigEndian (Sha3.hash message)
    let inverse := Modular.inverse n s
    let first := Curve.multiply curve 256 (digest * inverse % n) (Curve.affine curve.generator)
    let second := Curve.multiply curve 256 (r * inverse % n) (Curve.affine point)
    match curve.coordinates? (curve.add first second) with
    | some (x, _) => x % n == r
    | none => false

end MoveClient.Ecdsa
