import MoveClient.Address.Text
import MoveClient.Error.Showable
import MoveClient.Text.Numeral

/-!
Reading numbers, truth values and addresses from values.

An integer may be given as such or as a numeral, decimal or hexadecimal after `0x`; a truth value
as such or as `true` or `false`; an address as such or as text in the relaxed form. A half of a
character is in none of these texts.
-/

namespace MoveClient.Value

/-- The integer of a numeral with blanks around it; `0x` or `0X` in front makes it hexadecimal. -/
def integerOfText? (text : String) : Option Int :=
  match trimBlanks text.toList with
  | '0' :: x :: rest =>
      if x = 'x' ∨ x = 'X' then Numeral.read? .hexadecimal rest
      else Numeral.read? .decimal ('0' :: x :: rest)
  | body => Numeral.read? .decimal body

/-- Reads an integer; `expected` names it in failures. -/
def toInteger (expected : String) : Value → Except Error Int
  | .bool _ => .error (.parse (.integerFromBool expected))
  | .int number => .ok number
  | .text s =>
      match integerOfText? s with
      | some number => .ok number
      | none => .error (.parse (.invalidInteger expected s))
  | .brokenText broken => .error (.parse (.brokenInteger expected broken))
  | value => .error (.parse (.integerFromOther expected value.kindName))

/-- Reads a truth value. -/
def toBool : Value → Except Error Bool
  | .bool b => .ok b
  | .text s =>
      if s = "true" then .ok true
      else if s = "false" then .ok false
      else .error (.parse (.notBool (.text s)))
  | value => .error (Error.parse (.notBool value)).stated

/-- Reads an address. -/
def toAddress : Value → Except Error Address
  | .address a => .ok a
  | .text s =>
      match Address.parseRelaxed s with
      | .ok a => .ok a
      | .error cause => .error (.addressText cause)
  | .brokenText broken => .error (.addressText (Address.faultOfBroken broken))
  | value => .error (.parse (.notAddress value.kindName))

/-- Reads an address where nothing but text is one. -/
def toAddressOfText (value : Value) : Except Error Address :=
  if value.kindName = "str" then value.toAddress else .error .wrongKind

end MoveClient.Value
