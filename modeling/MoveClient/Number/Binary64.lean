import MoveClient.Bytes

/-!
Binary floating-point numbers of 64 bits.

A finite number is a sign, a significand below 2^53 and a power of two; every number that the
format can hold has one such form, with the least exponent `minExponent` shared by the smallest
numbers. Reading a decimal rounds to the nearest number, a tie to the even significand.
-/

namespace MoveClient

/-- A binary floating-point number of 64 bits. -/
inductive Binary64 where
  | notANumber
  | infinite (negative : Bool)
  | finite (negative : Bool) (significand : Nat) (exponent : Int)
deriving DecidableEq, Repr

namespace Binary64

/-- The exponent of the smallest numbers. -/
def minExponent : Int := -1074

/-- The exponent of the largest numbers. -/
def maxExponent : Int := 971

/-- A quotient rounded to the nearest natural number, a half to the even neighbour. -/
def roundedQuotient (numerator denominator : Nat) : Nat :=
  let quotient := numerator / denominator
  let remainder := numerator % denominator
  if 2 * remainder < denominator then quotient
  else if denominator < 2 * remainder then quotient + 1
  else quotient + quotient % 2

/-- A fraction multiplied by a power of a natural number, as numerator and denominator. -/
def scaled (base : Nat) (exponent : Int) (numerator denominator : Nat) : Nat × Nat :=
  (numerator * base ^ exponent.toNat, denominator * base ^ (-exponent).toNat)

/-- The greatest exponent `k` with `base ^ k` at most the fraction, given one within one of it. -/
def floorExponent (base : Nat) (guess : Int) (numerator denominator : Nat) : Int :=
  let (n, d) := scaled base (-guess) numerator denominator
  if d ≤ n then guess else guess - 1

/-- The number nearest to a fraction. -/
def ofRatio (negative : Bool) (numerator denominator : Nat) : Binary64 :=
  if numerator = 0 then finite negative 0 minExponent
  else
    let guess : Int := Int.ofNat numerator.log2 - Int.ofNat denominator.log2
    let exponent := max (floorExponent 2 guess numerator denominator - 52) minExponent
    let (n, d) := scaled 2 (-exponent) numerator denominator
    let significand := roundedQuotient n d
    let (significand, exponent) :=
      if significand = 2 ^ (53 : Nat) then (2 ^ (52 : Nat), exponent + 1) else (significand, exponent)
    if maxExponent < exponent then infinite negative else finite negative significand exponent

/-- The number nearest to `digits * 10 ^ exponent`. -/
def ofDecimal (negative : Bool) (digits : Nat) (exponent : Int) : Binary64 :=
  if digits = 0 then finite negative 0 minExponent
  else
    let magnitude : Int := Int.ofNat (Nat.toDigits 10 digits).length + exponent
    if magnitude < -330 then finite negative 0 minExponent
    else if 310 < magnitude then infinite negative
    else
      let (numerator, denominator) := scaled 10 exponent digits 1
      ofRatio negative numerator denominator

/-- The number nearest to an integer. -/
def ofInt (number : Int) : Binary64 :=
  ofDecimal (number < 0) number.natAbs 0

/-- The integer part of a finite number, toward zero; nothing for the others. -/
def truncated? : Binary64 → Option Int
  | finite negative significand exponent =>
      let (n, d) := scaled 2 exponent significand 1
      let magnitude : Int := Int.ofNat (n / d)
      some (if negative then -magnitude else magnitude)
  | _ => none

/-- A finite number as a signed numerator and a denominator. -/
def fraction? : Binary64 → Option (Int × Nat)
  | finite negative significand exponent =>
      let (n, d) := scaled 2 exponent significand 1
      some (if negative then -(Int.ofNat n) else Int.ofNat n, d)
  | _ => none

/-- The number nearest to the quotient by a natural number that is not zero. -/
def dividedBy (number : Binary64) (divisor : Nat) : Binary64 :=
  match number with
  | finite negative significand exponent =>
      let (n, d) := scaled 2 exponent significand 1
      ofRatio negative n (d * divisor)
  | number => number

/-- Whether two numbers are numerically equal: the two zeros are, no undefined number is. -/
def sameNumber : Binary64 → Binary64 → Bool
  | notANumber, _ | _, notANumber => false
  | infinite negative, infinite negative' => negative == negative'
  | finite negative significand exponent, finite negative' significand' exponent' =>
      (significand == 0 && significand' == 0) ||
        (negative == negative' && significand == significand' && exponent == exponent')
  | _, _ => false

/-- Whether the number is exactly the integer. -/
def isInteger (number : Binary64) (integer : Int) : Bool :=
  match number.fraction? with
  | some (n, d) => n == integer * Int.ofNat d
  | none => false

/-- The order of finite numbers and infinities; an undefined number is below nothing. -/
def isBelow (left right : Binary64) : Bool :=
  match left, right with
  | notANumber, _ | _, notANumber => false
  | infinite negative, infinite negative' => negative && !negative'
  | infinite negative, finite .. => negative
  | finite .., infinite negative => !negative
  | finite .., finite .. =>
      match left.fraction?, right.fraction? with
      | some (n, d), some (n', d') => n * Int.ofNat d' < n' * Int.ofNat d
      | _, _ => false

/-- The order that equal numbers are in too; an undefined number is at most nothing. -/
def isAtMost (left right : Binary64) : Bool :=
  match left, right with
  | notANumber, _ | _, notANumber => false
  | infinite negative, infinite negative' => negative || !negative'
  | infinite negative, finite .. => negative
  | finite .., infinite negative => !negative
  | finite .., finite .. =>
      match left.fraction?, right.fraction? with
      | some (n, d), some (n', d') => n * Int.ofNat d' ≤ n' * Int.ofNat d
      | _, _ => false

end Binary64

end MoveClient
