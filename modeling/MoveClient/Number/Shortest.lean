import MoveClient.Number.Binary64

/-!
The shortest decimal that reads back as a given floating-point number.

The reals that round to a number form an interval around it, with its ends included exactly if
the significand is even. For one, two, and up to seventeen digits, the two neighbours of the
number on that decimal grid are tried; the first grid with a hit decides, of two hits the nearer,
of two equally near the one with the even last digit. `text` writes the result positionally or
with an exponent, as a `PositionalRange` says.
-/

namespace MoveClient.Shortest

/-- Which decimal exponents of the leading digit are written without an exponent: from `least`
up to, but not including, `limit`. -/
structure PositionalRange where
  least : Int
  limit : Int
deriving DecidableEq, Repr

/-- The distance of two natural numbers. -/
private def distance (left right : Nat) : Nat :=
  if left ≤ right then right - left else left - right

/-- The decimals with `places` digits next to a number given as a fraction `number`, that lie in
the interval from `low` to `high`; all three are numerators over `denominator`. The result is the
digits and the exponent of the last digit. -/
def hit? (number low high denominator : Nat) (closed : Bool) (leading : Int) (places : Nat) :
    Option (Nat × Int) :=
  let last : Int := leading - (Int.ofNat places - 1)
  let (n, d) := Binary64.scaled 10 (-last) number denominator
  let below := n / d
  let up := 10 ^ last.toNat * denominator
  let down := 10 ^ (-last).toNat
  let inside (digits : Nat) : Bool :=
    let point := digits * up
    let (low, high) := (low * down, high * down)
    if closed then low ≤ point && point ≤ high else low < point && point < high
  let gap (digits : Nat) : Nat := distance (digits * up) (number * down)
  let above := below + 1
  match inside below, inside above with
  | true, true =>
      if gap below < gap above then some (below, last)
      else if gap above < gap below then some (above, last)
      else if below % 2 = 0 then some (below, last) else some (above, last)
  | true, false => some (below, last)
  | false, true => some (above, last)
  | false, false => none

/-- Removes trailing zeros of the digits; `fuel` bounds their number. -/
def stripZeros : (fuel : Nat) → Nat → Int → Nat × Int
  | 0, digits, exponent => (digits, exponent)
  | fuel + 1, digits, exponent =>
      if digits % 10 = 0 ∧ digits ≠ 0 then stripZeros fuel (digits / 10) (exponent + 1)
      else (digits, exponent)

/-- The shortest digits, without trailing zeros, and the exponent of the last digit, of a positive
number `significand * 2 ^ exponent`. -/
def digits (significand : Nat) (exponent : Int) : Nat × Int :=
  let quarter := exponent - 2
  let lowGap := if significand = 2 ^ (52 : Nat) ∧ Binary64.minExponent < exponent then 1 else 2
  let (unit, denominator) := Binary64.scaled 2 quarter 1 1
  let number := 4 * significand * unit
  let low := (4 * significand - lowGap) * unit
  let high := (4 * significand + 2) * unit
  let closed := significand % 2 = 0
  let guess : Int :=
    Int.ofNat (Nat.toDigits 10 number).length - Int.ofNat (Nat.toDigits 10 denominator).length
  let leading := Binary64.floorExponent 10 guess number denominator
  let found := (List.range 17).findSome? fun less =>
    hit? number low high denominator closed leading (less + 1)
  match found with
  | some (decimal, last) => stripZeros 18 decimal last
  | none => (0, 0)

/-- Digits and the exponent of the last digit as text. -/
def positional (digits : List Char) (last : Int) : List Char :=
  if 0 ≤ last then digits ++ List.replicate last.toNat '0' ++ ['.', '0']
  else
    let places := (-last).toNat
    if digits.length ≤ places then
      '0' :: '.' :: List.replicate (places - digits.length) '0' ++ digits
    else digits.take (digits.length - places) ++ '.' :: digits.drop (digits.length - places)

/-- Digits with a point after the first and an exponent of at least two digits. -/
def scientific (digits : List Char) (leading : Int) : List Char :=
  let mantissa := match digits with
    | first :: second :: rest => first :: '.' :: second :: rest
    | short => short
  let magnitude := Nat.toDigits 10 leading.natAbs
  let padded := if magnitude.length < 2 then '0' :: magnitude else magnitude
  mantissa ++ 'e' :: (if leading < 0 then '-' else '+') :: padded

/-- The shortest text of a number that reads back as it. -/
def text (range : PositionalRange) : Binary64 → String
  | .notANumber => "nan"
  | .infinite negative => if negative then "-inf" else "inf"
  | .finite negative significand exponent =>
      let sign := if negative then ['-'] else []
      if significand = 0 then String.ofList (sign ++ ['0', '.', '0'])
      else
        let (decimal, last) := digits significand exponent
        let shown := Nat.toDigits 10 decimal
        let leading := last + (Int.ofNat shown.length - 1)
        let body :=
          if range.least ≤ leading ∧ leading < range.limit then positional shown last
          else scientific shown leading
        String.ofList (sign ++ body)

end MoveClient.Shortest
