/-!
Arithmetic modulo a prime.

Numbers are kept below the modulus. Inverses and roots are powers.
-/

namespace MoveClient.Modular

/-- The difference modulo `p` of two numbers below `p`. -/
def sub (p left right : Nat) : Nat :=
  (left + (p - right)) % p

/-- A power modulo `p`, by squaring; `bits` bounds the number of bits of the exponent. -/
def powBits (p : Nat) : (bits base exponent : Nat) → Nat
  | 0, _, _ => 1 % p
  | bits + 1, base, exponent =>
      let half := powBits p bits (base * base % p) (exponent / 2)
      if exponent % 2 = 1 then base * half % p else half

/-- A power modulo `p`. -/
def pow (p base exponent : Nat) : Nat :=
  powBits p (exponent.log2 + 1) base exponent

/-- The inverse modulo a prime `p`. -/
def inverse (p number : Nat) : Nat :=
  pow p number (p - 2)

end MoveClient.Modular
