import MoveClient.Curve.Weierstrass

/-!
The signature schemes and the parts of their key material.
-/

namespace MoveClient

/-- The signature schemes of single keys. -/
inductive KeyScheme where
  | ed25519
  | ecdsa (curve : Curve)
  | slhDsa
deriving DecidableEq, Repr

/-- What a piece of key material is. -/
inductive KeyPart where
  | privateKey
  | publicKey
  | signature
deriving DecidableEq, Repr

end MoveClient
