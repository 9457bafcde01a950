import MoveClient.Bytes.Hex
import MoveClient.Text.Blank
import MoveClient.Text.DecimalDigit

/-!
Written integers.

A numeral is a sign, if any, and digits of one base. Digits of every decimal script are accepted,
single underscores may stand between digits, and blanks may surround the whole. A hexadecimal
numeral may carry a marker of its own between the sign and the digits, and an underscore after
that. Decimal numerals are limited to `maxDecimalDigits` digits; hexadecimal ones have no limit.
-/

namespace MoveClient.Numeral

/-- The base of a numeral. -/
inductive Base where
  | decimal
  | hexadecimal
deriving DecidableEq, Repr

/-- The most digits that a decimal numeral may have, leading zeros counted. -/
def maxDecimalDigits : Nat := 4300

/-- The value of one digit in the base. -/
def Base.digitValue? : Base → Char → Option Nat
  | .decimal, c => decimalDigitValue? c
  | .hexadecimal, c => hexDigitValue? c <|> decimalDigitValue? c

/-- The number of values of a digit. -/
def Base.radix : Base → Nat
  | .decimal => 10
  | .hexadecimal => 16

/-- The digits of a numeral as values. An underscore needs a digit on either side; at the
beginning, `afterDigit` says that none came yet. -/
def digits? (base : Base) : (afterDigit : Bool) → List Char → Option (List Nat)
  | afterDigit, [] => if afterDigit then some [] else none
  | afterDigit, c :: rest =>
      if c = '_' then
        if afterDigit then digits? base false rest else none
      else
        match base.digitValue? c with
        | some value => (digits? base true rest).map (value :: ·)
        | none => none

/-- The number that digit values denote. -/
def ofDigits (radix : Nat) (digits : List Nat) : Nat :=
  digits.foldl (fun number digit => radix * number + digit) 0

/-- Whether a blank may surround the digits: the information separators may not. -/
def isPadding (c : Char) : Bool :=
  isBlank c && !(0x1c ≤ c.toNat && c.toNat ≤ 0x1f)

/-- Splits off the sign; the first component says whether it is negative. -/
def splitSign : List Char → Bool × List Char
  | '-' :: rest => (true, rest)
  | '+' :: rest => (false, rest)
  | text => (false, text)

/-- Removes the base's own marker, and an underscore that follows the marker. -/
def dropMarker : Base → List Char → List Char
  | .decimal, text => text
  | .hexadecimal, '0' :: x :: rest =>
      if x = 'x' ∨ x = 'X' then
        match rest with
        | '_' :: rest' => rest'
        | _ => rest
      else '0' :: x :: rest
  | .hexadecimal, text => text

/-- Reads a whole text as a numeral of the base. -/
def read? (base : Base) (text : List Char) : Option Int :=
  let inner := ((text.dropWhile isPadding).reverse.dropWhile isPadding).reverse
  let (negative, body) := splitSign inner
  match digits? base false (dropMarker base body) with
  | none => none
  | some digits =>
      if base = .decimal ∧ maxDecimalDigits < digits.length then none
      else
        let magnitude : Int := ofDigits base.radix digits
        some (if negative then -magnitude else magnitude)

end MoveClient.Numeral
