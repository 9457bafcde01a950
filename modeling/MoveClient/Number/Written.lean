import MoveClient.Number.Binary64
import MoveClient.Text.Numeral

/-!
Written floating-point numbers.

A number is written as a sign, if any, digits with a point among or beside them, and a power of
ten. Digits follow the rules of numerals: every decimal script, single underscores between digits,
blanks around the whole. Infinity and the undefined number are written as words.
-/

namespace MoveClient.Binary64

/-- The words for the numbers that are not finite, in lower case. -/
def words : List (String × (Bool → Binary64)) :=
  [("inf", infinite), ("infinity", infinite), ("nan", fun _ => notANumber)]

/-- The parts of a text before and behind the first character with a property. -/
def splitAtFirst (isMark : Char → Bool) (text : List Char) : List Char × Option (List Char) :=
  match text.span fun c => !isMark c with
  | (before, []) => (before, none)
  | (before, _ :: behind) => (before, some behind)

/-- The values of digits that may be missing altogether. -/
def optionalDigits? (text : List Char) : Option (List Nat) :=
  if text.isEmpty then some [] else Numeral.digits? .decimal false text

/-- The power of ten behind the exponent mark; without a mark it is zero. -/
def powerOfTen? : Option (List Char) → Option Int
  | none => some 0
  | some text =>
      let (negative, body) := Numeral.splitSign text
      (Numeral.digits? .decimal false body).map fun digits =>
        let magnitude : Int := Numeral.ofDigits 10 digits
        if negative then -magnitude else magnitude

/-- A finite number without its sign. -/
def readMagnitude? (negative : Bool) (text : List Char) : Option Binary64 := do
  let (mantissa, exponent) := splitAtFirst (fun c => c == 'e' || c == 'E') text
  let (whole, fraction) := splitAtFirst (· == '.') mantissa
  let wholeDigits ← optionalDigits? whole
  let fractionDigits ← optionalDigits? (fraction.getD [])
  let power ← powerOfTen? exponent
  let digits := wholeDigits ++ fractionDigits
  if digits.isEmpty then none
  else some (ofDecimal negative (Numeral.ofDigits 10 digits) (power - fractionDigits.length))

/-- Reads a whole text as a number. -/
def read? (text : List Char) : Option Binary64 :=
  let inner := ((text.dropWhile Numeral.isPadding).reverse.dropWhile Numeral.isPadding).reverse
  let (negative, body) := Numeral.splitSign inner
  match words.find? fun word => word.1 = String.ofList (body.map Char.toLower) with
  | some word => some (word.2 negative)
  | none => readMagnitude? negative body

end MoveClient.Binary64
