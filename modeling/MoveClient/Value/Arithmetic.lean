import MoveClient.Error
import MoveClient.Text.Numeral

/-!
Arithmetic with values that count as numbers.

Truth values count as zero and one. An integer and a floating-point number are added as
floating-point numbers; an integer beyond all of these cannot be.
-/

namespace MoveClient

namespace Binary64

/-- The number nearest to a fraction whose denominator is a power of two. -/
def ofDyadic (numerator : Int) (denominator : Nat) : Binary64 :=
  let places := denominator.log2
  ofDecimal (numerator < 0) (numerator.natAbs * 5 ^ places) (-(places : Int))

/-- The sum of two numbers, rounded to the nearest number. -/
def plus (left right : Binary64) : Binary64 :=
  match left.fraction?, right.fraction? with
  | some (n, d), some (n', d') => ofDyadic (n * d' + n' * d) (d * d')
  | some _, none => right
  | none, some _ => left
  | none, none => if left = right then left else notANumber

/-- The number nearest to an integer that is not beyond all numbers. -/
def nearest (integer : Int) : Except Error Binary64 :=
  match ofInt integer with
  | infinite _ => .error .numberTooLarge
  | number => .ok number

end Binary64

namespace Value

/-- The integer that a number or a numeral stands for; a fraction is cut off. -/
def toWhole : Value → Except Error Int
  | .bool b => .ok (if b then 1 else 0)
  | .int number => .ok number
  | .float number =>
      match number.truncated? with
      | some whole => .ok whole
      | none => .error (if number = .notANumber then .invalidNumber else .numberTooLarge)
  | .text s =>
      match Numeral.read? .decimal s.toList with
      | some number => .ok number
      | none => .error .invalidNumber
  | .brokenText _ => .error .invalidNumber
  | _ => .error .wrongKind

/-- The floating-point number that a number is beside another one. -/
def real : Value → Except Error Binary64
  | .bool b => .ok (.ofInt (if b then 1 else 0))
  | .int number => Binary64.nearest number
  | .float number => .ok number
  | _ => .error .wrongKind

/-- Whether a number is below zero. -/
def isNegative : Value → Except Error Bool
  | .bool _ => .ok false
  | .int number => .ok (number < 0)
  | .float number => .ok (number.isBelow (.ofInt 0))
  | _ => .error .wrongKind

/-- The sum of an integer and a number. -/
def addTo (left : Int) : Value → Except Error Value
  | .bool b => .ok (.int (left + if b then 1 else 0))
  | .int number => .ok (.int (left + number))
  | .float number => .ok (.float ((Binary64.ofInt left).plus number))
  | _ => .error .wrongKind

end Value

end MoveClient
