import MoveClient.Curve.Modular

/-!
Two elliptic curves in short Weierstrass form.

Points are kept in Jacobian coordinates: `(x, y, z)` stands for `(x / z^2, y / z^3)`, and `z = 0`
for the point at infinity.
-/

namespace MoveClient

/-- The curves of the ECDSA schemes. -/
inductive Curve where
  | secp256k1
  | secp256r1
deriving DecidableEq, Repr

namespace Curve

/-- The prime modulus of the coordinates. -/
def modulus : Curve → Nat
  | .secp256k1 => 0xfffffffffffffffffffffffffffffffffffffffffffffffffffffffefffffc2f
  | .secp256r1 => 0xffffffff00000001000000000000000000000000ffffffffffffffffffffffff

/-- The coefficient of `x`. -/
def a : Curve → Nat
  | .secp256k1 => 0
  | .secp256r1 => 0xffffffff00000001000000000000000000000000fffffffffffffffffffffffc

/-- The constant coefficient. -/
def b : Curve → Nat
  | .secp256k1 => 7
  | .secp256r1 => 0x5ac635d8aa3a93e7b3ebbd55769886bc651d06b0cc53b0f63bce3c3e27d2604b

/-- The number of points, a prime. -/
def order : Curve → Nat
  | .secp256k1 => 0xfffffffffffffffffffffffffffffffebaaedce6af48a03bbfd25e8cd0364141
  | .secp256r1 => 0xffffffff00000000ffffffffffffffffbce6faada7179e84f3b9cac2fc632551

/-- The coordinates of the generator. -/
def generator : Curve → Nat × Nat
  | .secp256k1 =>
      (0x79be667ef9dcbbac55a06295ce870b07029bfcdb2dce28d959f2815b16f81798,
        0x483ada7726a3c4655da4fbfc0e1108a8fd17b448a68554199c47d08ffb10d4b8)
  | .secp256r1 =>
      (0x6b17d1f2e12c4247f8bce6e563a440f277037d812deb33a0f4a13945d898c296,
        0x4fe342e2fe1a7f9b8ee7eb4a7c0f9e162bce33576b315ececbb6406837bf51f5)

/-- Whether coordinates are below the modulus and satisfy the equation of the curve. -/
def contains (curve : Curve) (x y : Nat) : Bool :=
  let p := curve.modulus
  x < p && y < p && y * y % p == (x * x * x + curve.a * x + curve.b) % p

/-- A point in Jacobian coordinates. -/
structure Point where
  x : Nat
  y : Nat
  z : Nat
deriving DecidableEq, Repr

/-- The point at infinity. -/
def infinity : Point := ⟨1, 1, 0⟩

/-- The point with the given coordinates. -/
def affine (coordinates : Nat × Nat) : Point :=
  ⟨coordinates.1, coordinates.2, 1⟩

/-- A point added to itself. -/
def double (curve : Curve) (point : Point) : Point :=
  let p := curve.modulus
  let square := point.y * point.y % p
  let s := 4 * point.x * square % p
  let zz := point.z * point.z % p
  let m := (3 * point.x * point.x + curve.a * (zz * zz % p)) % p
  let x := Modular.sub p (m * m % p) (2 * s % p)
  let y := Modular.sub p (m * Modular.sub p s x % p) (8 * square * square % p)
  ⟨x, y, 2 * point.y * point.z % p⟩

/-- The sum of two points. -/
def add (curve : Curve) (left right : Point) : Point :=
  if left.z = 0 then right
  else if right.z = 0 then left
  else
    let p := curve.modulus
    let leftZZ := left.z * left.z % p
    let rightZZ := right.z * right.z % p
    let u := left.x * rightZZ % p
    let s := left.y * rightZZ * right.z % p
    let h := Modular.sub p (right.x * leftZZ % p) u
    let r := Modular.sub p (right.y * leftZZ * left.z % p) s
    if h = 0 then
      if r = 0 then double curve left else infinity
    else
      let hh := h * h % p
      let hhh := hh * h % p
      let v := u * hh % p
      let x := Modular.sub p (Modular.sub p (r * r % p) hhh) (2 * v % p)
      let y := Modular.sub p (r * Modular.sub p v x % p) (s * hhh % p)
      ⟨x, y, h * left.z * right.z % p⟩

/-- A multiple of a point, by doubling; `bits` bounds the number of bits of the scalar. -/
def multiply (curve : Curve) : (bits scalar : Nat) → Point → Point
  | 0, _, _ => infinity
  | bits + 1, scalar, point =>
      let rest := multiply curve bits (scalar / 2) (double curve point)
      if scalar % 2 = 1 then add curve point rest else rest

/-- The coordinates of a point, if it is not the point at infinity. -/
def coordinates? (curve : Curve) (point : Point) : Option (Nat × Nat) :=
  if point.z = 0 then none
  else
    let p := curve.modulus
    let inverse := Modular.inverse p point.z
    let square := inverse * inverse % p
    some (point.x * square % p, point.y * (square * inverse % p) % p)

/-- The coordinates of a multiple of the generator. -/
def ofScalar? (curve : Curve) (scalar : Nat) : Option (Nat × Nat) :=
  coordinates? curve (multiply curve 256 scalar (affine curve.generator))

end Curve

end MoveClient
