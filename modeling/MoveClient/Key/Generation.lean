import MoveClient.Key.Single

/-!
Fresh private keys.

A private key is made of a number that nobody else knows. An Ed25519 key is any 32 octets; a
scalar of another scheme is above zero and below the order of its curve, and every scalar can come
up.
-/

namespace MoveClient

namespace EcdsaPrivateKey

/-- The scalar of a number. -/
def ofNumber (curve : Curve) (number : Nat) : EcdsaPrivateKey curve :=
  ⟨1 + number % (curve.order - 1), by omega, by
    have bound := Nat.mod_lt number (y := curve.order - 1) (by cases curve <;> decide)
    omega⟩

end EcdsaPrivateKey

namespace PrivateKey

/-- The private key of a scheme that a number makes; SLH-DSA has none here. -/
def ofNumber : KeyScheme → Nat → Except Error PrivateKey
  | .ed25519, number => .ok (.ed25519 (.ofNumber 32 number))
  | .ecdsa curve, number => .ok (.ecdsa curve (.ofNumber curve number))
  | .slhDsa, _ => .error .wrongKind

end PrivateKey

end MoveClient
