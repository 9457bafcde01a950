import MoveClient.Bytes
import MoveClient.Curve.Modular

/-!
The twisted Edwards curve of Ed25519.

Points are kept in extended coordinates: `(x, y, z, t)` stands for `(x / z, y / z)` with
`t = x * y / z`. The addition law holds for all pairs of points. A point is spelled in 32 octets by
its `y` and the lowest bit of its `x`.
-/

namespace MoveClient.Edwards

/-- The prime modulus of the coordinates. -/
def modulus : Nat := 2 ^ (255 : Nat) - 19

/-- The order of the base point. -/
def order : Nat := 2 ^ (252 : Nat) + 27742317777372353535851937790883648493

/-- The coefficient of the curve's equation. -/
def d : Nat := 37095705934669439343138083508754565189542113879843219016388785533085940283555

/-- A square root of minus one. -/
def rootOfMinusOne : Nat :=
  19681161376707505956807079304988542015446066515923890162744021073123829784752

/-- A point in extended coordinates. -/
structure Point where
  x : Nat
  y : Nat
  z : Nat
  t : Nat
deriving DecidableEq, Repr

/-- The neutral point. -/
def neutral : Point := ⟨0, 1, 1, 0⟩

/-- The point with the given coordinates. -/
def affine (x y : Nat) : Point :=
  ⟨x, y, 1, x * y % modulus⟩

/-- The base point. -/
def base : Point :=
  affine 15112221349535400772501151409588531511454012693041857206046113283949847762202
    46316835694926478169428394003475163141307993866256225615783033603165251855960

/-- The sum of two points. -/
def add (left right : Point) : Point :=
  let p := modulus
  let a := Modular.sub p left.y left.x * Modular.sub p right.y right.x % p
  let b := (left.y + left.x) * (right.y + right.x) % p
  let c := 2 * left.t * d % p * right.t % p
  let z := 2 * left.z * right.z % p
  let e := Modular.sub p b a
  let f := Modular.sub p z c
  let g := (z + c) % p
  let h := (b + a) % p
  ⟨e * f % p, g * h % p, f * g % p, e * h % p⟩

/-- A point with its `x` negated. -/
def negate (point : Point) : Point :=
  ⟨Modular.sub modulus 0 point.x, point.y, point.z, Modular.sub modulus 0 point.t⟩

/-- A multiple of a point, by doubling; `bits` bounds the number of bits of the scalar. -/
def multiply : (bits scalar : Nat) → Point → Point
  | 0, _, _ => neutral
  | bits + 1, scalar, point =>
      let rest := multiply bits (scalar / 2) (add point point)
      if scalar % 2 = 1 then add point rest else rest

/-- The 32 octets that spell a point. -/
def encode (point : Point) : Bytes :=
  let inverse := Modular.inverse modulus point.z
  let x := point.x * inverse % modulus
  let y := point.y * inverse % modulus
  Bytes.littleEndian 32 (y + x % 2 * 2 ^ (255 : Nat))

/-- An `x` of the given parity for a `y`, if the curve has one. -/
def recoverX? (y parity : Nat) : Option Nat :=
  let p := modulus
  let u := Modular.sub p (y * y % p) 1
  let v := (d * (y * y % p) + 1) % p
  let v3 := v * v % p * v % p
  let v7 := v3 * v3 % p * v % p
  let root := u * v3 % p * Modular.pow p (u * v7 % p) ((p - 5) / 8) % p
  let check := v * (root * root % p) % p
  let root? :=
    if check = u then some root
    else if check = Modular.sub p 0 u then some (root * rootOfMinusOne % p)
    else none
  root?.map fun x => if x % 2 = parity then x else Modular.sub p 0 x

/-- The number in all bits of 32 octets but the topmost. -/
def yOf (spelled : Bytes) : Nat :=
  Bytes.ofLittleEndian spelled % 2 ^ (255 : Nat)

/-- The point that 32 octets spell, if the curve has one. -/
def decode? (spelled : Bytes) : Option Point :=
  let y := yOf spelled % modulus
  (recoverX? y (Bytes.ofLittleEndian spelled / 2 ^ (255 : Nat))).map fun x => affine x y

/-- The values of `y` of the points whose order divides eight, with the two that are written
beyond the modulus. -/
def smallOrderYs : List Nat :=
  [0, 1, modulus - 1, modulus, modulus + 1,
    2707385501144840649318225287225658788936804267575313519463743609750303402022,
    55188659117513257062467267217118295137698188065244968500265048394206261417927]

/-- Whether 32 octets spell a point whose order divides eight, canonically or not. -/
def hasSmallOrder (spelled : Bytes) : Bool :=
  smallOrderYs.contains (yOf spelled)

/-- Whether the `y` that 32 octets spell is below the modulus. -/
def isCanonical (spelled : Bytes) : Bool :=
  yOf spelled < modulus

end MoveClient.Edwards
