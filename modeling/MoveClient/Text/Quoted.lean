import MoveClient.Bytes.Hex
import MoveClient.Text.Printable

/-!
Quoted text, as it appears inside messages.

Text is quoted with apostrophes, or with quotation marks if it holds an apostrophe and no
quotation mark. The quote in use and the backslash are escaped, tab, line feed and carriage return
have short escapes, and every other unprintable character is escaped by its code point in two,
four or eight hexadecimal digits. Byte strings are quoted the same way with a `b` in front, with
every octet that is not printable ASCII in two digits.
-/

namespace MoveClient.Quoted

/-- The quote that text with these characters is put in. -/
def quoteFor (characters : List Char) : Char :=
  if characters.contains '\'' && !characters.contains '"' then '"' else '\''

/-- A code in exactly `width` hexadecimal digits. -/
def hexCode : (width : Nat) → Nat → List Char
  | 0, _ => []
  | width + 1, code => hexCode width (code / 16) ++ [hexDigit (code % 16)]

/-- A backslash and the digits of a code, in the shortest of the three widths. -/
def codeEscape (code : Nat) : List Char :=
  if code ≤ 0xff then '\\' :: 'x' :: hexCode 2 code
  else if code ≤ 0xffff then '\\' :: 'u' :: hexCode 4 code
  else '\\' :: 'U' :: hexCode 8 code

/-- One character between the given quotes. -/
def escape (quote c : Char) : List Char :=
  if c = quote ∨ c = '\\' then ['\\', c]
  else if c = '\t' then ['\\', 't']
  else if c = '\n' then ['\\', 'n']
  else if c = '\r' then ['\\', 'r']
  else if isPrintable c then [c]
  else codeEscape c.toNat

/-- Text in quotes. -/
def text (s : String) : String :=
  let quote := quoteFor s.toList
  String.ofList (quote :: s.toList.flatMap (escape quote) ++ [quote])

/-- The character an octet is shown as: printable ASCII as itself, any other octet as an
unprintable character of the same code. -/
def shownOctet (quote : Char) (octet : UInt8) : List Char :=
  if octet < 0x7f then escape quote (Char.ofNat octet.toNat) else codeEscape octet.toNat

/-- A byte string in quotes. -/
def bytes (octets : Bytes) : String :=
  let quote := quoteFor (octets.map fun octet => Char.ofNat octet.toNat)
  String.ofList ('b' :: quote :: octets.flatMap (shownOctet quote) ++ [quote])

end MoveClient.Quoted
