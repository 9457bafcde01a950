import MoveClient.Number.Shortest
import MoveClient.Text.Quoted
import MoveClient.Value

/-!
The text of a value in messages.

`quoted` puts text in quotes, so that it can be told from a number; `shown` gives text as it is,
with halves of characters replaced.
Lists are in brackets, tuples in parentheses with a comma after a single item, maps in braces.
-/

namespace MoveClient.Value

/-- Floating-point numbers from `1e-4` up to, but not including, `1e16` are written without an
exponent. -/
def floatRange : Shortest.PositionalRange := ⟨-4, 16⟩

/-- Texts with a separator of a comma and a blank. -/
def joined (texts : List String) : String :=
  ", ".intercalate texts

mutual

/-- The value with text in quotes. -/
def quoted : Value → String
  | .null => "None"
  | .bool true => "True"
  | .bool false => "False"
  | .int number => toString number
  | .float number => Shortest.text floatRange number
  | .text s => Quoted.text s
  | .brokenText broken => broken.quoted
  | .bytes octets => Quoted.bytes octets
  | .buffer octets => "bytearray(" ++ Quoted.bytes octets ++ ")"
  | .list items => "[" ++ joined (quotedAll items) ++ "]"
  | .tuple [item] => "(" ++ quoted item ++ ",)"
  | .tuple items => "(" ++ joined (quotedAll items) ++ ")"
  | .map entries => "\x7b" ++ joined (quotedEntries entries) ++ "\x7d"
  | .address a => a.text
  | .type tag => tag.text

/-- Each value with text in quotes. -/
def quotedAll : List Value → List String
  | [] => []
  | item :: rest => quoted item :: quotedAll rest

/-- Each entry as key, colon, value. -/
def quotedEntries : List (Value × Value) → List String
  | [] => []
  | (key, value) :: rest => (quoted key ++ ": " ++ quoted value) :: quotedEntries rest

end

/-- The value with text as it is. -/
def shown : Value → String
  | .text s => s
  | .brokenText broken => broken.shown
  | value => value.quoted

end MoveClient.Value
