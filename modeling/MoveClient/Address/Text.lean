import MoveClient.Address
import MoveClient.Error

/-!
Reading addresses.

The relaxed form is 1 to 64 hexadecimal digits, after `0x` or not. The strict form asks for `0x`,
for all 64 digits of an address that is not special, and for one or all 64 digits of one that is.
-/

namespace MoveClient.Address

/-- The address that hexadecimal digits spell, padded with zeros in front. -/
def ofDigits? (digits : List Char) : Option Address :=
  match Bytes.ofHexDigits (List.replicate (64 - digits.length) '0' ++ digits) with
  | some bytes => ofBytes? bytes
  | none => none

/-- The characters after one leading `0x`, if there is one. -/
def dropMarker : List Char → List Char
  | '0' :: 'x' :: rest => rest
  | text => text

/-- Reads the relaxed form. -/
def parseRelaxed (text : String) : Except AddressTextError Address :=
  let digits := dropMarker text.toList
  if digits.length < 1 then .error .tooShort
  else if 64 < digits.length then .error .tooLong
  else if digits.all isHexDigit then
    match ofDigits? digits with
    | some address => .ok address
    | none => .error (.invalidHex text)
  else .error (.invalidHex text)

/-- Why text with a half of a character is not in the relaxed form. -/
def faultOfBroken (text : BrokenText) : AddressTextError :=
  if 64 < (dropMarker text.front).length + 1 + text.rest.length then .tooLong
  else .brokenHex text

/-- Reads the strict form. -/
def parse (text : String) : Except AddressTextError Address :=
  match text.toList with
  | '0' :: 'x' :: digits => do
      let address ← parseRelaxed text
      if digits.length = 64 then .ok address
      else if !address.isSpecial then .error .notSpecial
      else if digits.length ≠ 1 then .error .paddedSpecial
      else .ok address
  | _ => .error .missingMarker

end MoveClient.Address
