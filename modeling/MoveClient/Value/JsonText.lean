import MoveClient.Error
import MoveClient.Value.Printed

/-!
Values as JSON.

Reading takes a whole text: numbers with a fraction or an exponent are floating-point numbers,
all others integers of any size up to `maxDigits` digits; the three undefined or infinite numbers
may be spelled out; a repeated name in an object keeps its first place and its last value.
Printing puts one blank behind commas and colons and escapes everything that is not printable
ASCII.
-/

namespace MoveClient

namespace JsonText

/-- The most digits of an integer. -/
def maxDigits : Nat := 4300

/-- What a scan of the front of a text gives: a result and the rest of the text. -/
abbrev Scanned (α : Type) := α × List Char

/-- A text that is not JSON. -/
def malformed {α : Type} : Except Error (Scanned α) :=
  .error .malformedJson

/-- A text without the blanks in front. -/
def skipBlanks (text : List Char) : List Char :=
  text.dropWhile fun c => c == ' ' || c == '\t' || c == '\n' || c == '\r'

/-- A piece of a string: a character, or a code unit of UTF-16 given by its number. -/
inductive StringPart where
  | character (c : Char)
  | unit (code : Nat)
deriving DecidableEq, Repr

/-- The character that stands behind a backslash for another one. -/
def shortEscape? : Char → Option Char
  | '"' => some '"'
  | '\\' => some '\\'
  | '/' => some '/'
  | 'b' => some '\x08'
  | 'f' => some '\x0c'
  | 'n' => some '\n'
  | 'r' => some '\r'
  | 't' => some '\t'
  | _ => none

/-- The number that hexadecimal digits spell. -/
def hexNumber? (digits : List Char) : Option Nat :=
  (digits.mapM hexDigitValue?).map fun values => values.foldl (fun n digit => 16 * n + digit) 0

/-- The pieces of a string up to its closing quotation mark, and what follows. -/
def stringParts : List Char → Except Error (Scanned (List StringPart))
  | [] => malformed
  | '"' :: rest => .ok ([], rest)
  | '\\' :: 'u' :: a :: b :: c :: d :: rest =>
      match hexNumber? [a, b, c, d] with
      | some code => (stringParts rest).map fun scanned => (.unit code :: scanned.1, scanned.2)
      | none => malformed
  | '\\' :: c :: rest =>
      match shortEscape? c with
      | some meant => (stringParts rest).map fun scanned => (.character meant :: scanned.1, scanned.2)
      | none => malformed
  | c :: rest =>
      if c.toNat < 0x20 then malformed
      else (stringParts rest).map fun scanned => (.character c :: scanned.1, scanned.2)

/-- The code points of a string: two code units that are halves of one character are joined. -/
def joinUnits : List StringPart → List CodePoint
  | [] => []
  | .character c :: rest => .character c :: joinUnits rest
  | .unit high :: .unit low :: rest =>
      if 0xd800 ≤ high ∧ high < 0xdc00 ∧ 0xdc00 ≤ low ∧ low < 0xe000 then
        .character (Char.ofNat (0x10000 + (high - 0xd800) * 0x400 + (low - 0xdc00))) ::
          joinUnits rest
      else .ofUnit high :: joinUnits (.unit low :: rest)
  | .unit code :: rest => .ofUnit code :: joinUnits rest

/-- A string behind its opening quotation mark. -/
def string (text : List Char) : Except Error (Scanned Value) :=
  (stringParts text).map fun scanned => (Value.ofCodePoints (joinUnits scanned.1), scanned.2)

/-- The decimal digits in front of a text, and the rest. -/
def digits (text : List Char) : List Char × List Char :=
  text.span Char.isDigit

/-- A point with digits behind it, if the text begins so. -/
def fractionDigits (text : List Char) : List Char × List Char :=
  match text with
  | '.' :: rest => if (digits rest).1.isEmpty then ([], text) else digits rest
  | _ => ([], text)

/-- The number that decimal digits spell. -/
def decimalNumber (spelled : List Char) : Nat :=
  Nat.ofDigitChars 10 spelled 0

/-- An exponent, if the text begins with one. -/
def exponent? (text : List Char) : Option (Int × List Char) :=
  match text with
  | mark :: rest =>
      if mark = 'e' ∨ mark = 'E' then
        let (negative, rest) := match rest with
          | '-' :: rest => (true, rest)
          | '+' :: rest => (false, rest)
          | _ => (false, rest)
        let (spelled, rest) := digits rest
        if spelled.isEmpty then none
        else
          let magnitude : Int := decimalNumber spelled
          some (if negative then -magnitude else magnitude, rest)
      else none
  | [] => none

/-- The digits before the point: no zero stands in front of others. -/
def wholeDigits (text : List Char) : List Char × List Char :=
  match text with
  | '0' :: rest => (['0'], rest)
  | _ => digits text

/-- A number whose sign has been read. -/
def unsigned (negative : Bool) (text : List Char) : Except Error (Scanned Value) :=
  let (whole, rest) := wholeDigits text
  if whole.isEmpty then malformed
  else
    let (fraction, rest) := fractionDigits rest
    match exponent? rest with
    | some (exponent, rest) =>
        .ok (.float (.ofDecimal negative (decimalNumber (whole ++ fraction))
          (exponent - fraction.length)), rest)
    | none =>
        if fraction.isEmpty then
          if maxDigits < whole.length then .error .numberTooLong
          else
            let magnitude : Int := decimalNumber whole
            .ok (.int (if negative then -magnitude else magnitude), rest)
        else
          .ok (.float (.ofDecimal negative (decimalNumber (whole ++ fraction))
            (-(fraction.length : Int))), rest)

/-- A value that is spelled as a word. -/
def words : List (List Char × Value) :=
  [("null".toList, .null), ("true".toList, .bool true), ("false".toList, .bool false),
    ("NaN".toList, .float .notANumber), ("Infinity".toList, .float (.infinite false)),
    ("-Infinity".toList, .float (.infinite true))]

/-- A word or a number. -/
def scalar (text : List Char) : Except Error (Scanned Value) :=
  match words.find? fun word => word.1.isPrefixOf text with
  | some (spelled, value) => .ok (value, text.drop spelled.length)
  | none =>
      match text with
      | '-' :: rest => unsigned true rest
      | _ => unsigned false text

mutual

/-- A value in front of a text; `fuel` bounds the number of steps. -/
def value : (fuel : Nat) → List Char → Except Error (Scanned Value)
  | 0, _ => malformed
  | fuel + 1, text =>
      match text with
      | '"' :: rest => string rest
      | '[' :: rest =>
          match skipBlanks rest with
          | ']' :: rest => .ok (.list [], rest)
          | rest => (items fuel rest).map fun scanned => (.list scanned.1, scanned.2)
      | '\x7b' :: rest =>
          match skipBlanks rest with
          | '\x7d' :: rest => .ok (.map [], rest)
          | rest => (entries fuel rest).map fun scanned => (.map (Value.entriesOf scanned.1), scanned.2)
      | _ => scalar text

/-- The items of an array up to its closing bracket. -/
def items : (fuel : Nat) → List Char → Except Error (Scanned (List Value))
  | 0, _ => malformed
  | fuel + 1, text => do
      let (first, rest) ← value fuel text
      match skipBlanks rest with
      | ']' :: rest => .ok ([first], rest)
      | ',' :: rest => do
          let (others, rest) ← items fuel (skipBlanks rest)
          .ok (first :: others, rest)
      | _ => malformed

/-- The entries of an object up to its closing brace. -/
def entries : (fuel : Nat) → List Char → Except Error (Scanned (List (Value × Value)))
  | 0, _ => malformed
  | fuel + 1, text =>
      match text with
      | '"' :: rest => do
          let (name, rest) ← string rest
          match skipBlanks rest with
          | ':' :: rest => do
              let (first, rest) ← value fuel (skipBlanks rest)
              match skipBlanks rest with
              | '\x7d' :: rest => .ok ([(name, first)], rest)
              | ',' :: rest => do
                  let (others, rest) ← entries fuel (skipBlanks rest)
                  .ok ((name, first) :: others, rest)
              | _ => malformed
          | _ => malformed
      | _ => malformed

end

/-- One code unit of UTF-16 as an escape. -/
def unitEscape (code : Nat) : List Char :=
  '\\' :: 'u' :: Quoted.hexCode 4 code

/-- One character of a string between quotation marks. -/
def escape (c : Char) : List Char :=
  if c = '"' ∨ c = '\\' then ['\\', c]
  else if c = '\n' then ['\\', 'n']
  else if c = '\r' then ['\\', 'r']
  else if c = '\t' then ['\\', 't']
  else if c = '\x0c' then ['\\', 'f']
  else if c = '\x08' then ['\\', 'b']
  else if 0x20 ≤ c.toNat ∧ c.toNat < 0x7f then [c]
  else if c.toNat < 0x10000 then unitEscape c.toNat
  else
    let code := c.toNat - 0x10000
    unitEscape (0xd800 + code / 0x400) ++ unitEscape (0xdc00 + code % 0x400)

/-- A string between quotation marks. -/
def printedString (s : String) : String :=
  String.ofList ('"' :: s.toList.flatMap escape ++ ['"'])

/-- A string with halves of characters between quotation marks: they are code units. -/
def printedBroken (text : BrokenText) : String :=
  String.ofList ('"' :: text.codePoints.flatMap escapePoint ++ ['"'])
where
  /-- One code point of the string. -/
  escapePoint : CodePoint → List Char
    | .character c => escape c
    | .half number => unitEscape (CodePoint.half number).code

/-- A floating-point number; the undefined and the infinite ones are spelled out. -/
def printedFloat : Binary64 → String
  | .notANumber => "NaN"
  | .infinite negative => if negative then "-Infinity" else "Infinity"
  | number => Shortest.text Value.floatRange number

end JsonText

namespace Value

/-- The value that a whole text spells in JSON. -/
def ofJson (text : String) : Except Error Value := do
  let characters := text.toList
  let (result, rest) ← JsonText.value (2 * characters.length + 2) (JsonText.skipBlanks characters)
  match JsonText.skipBlanks rest with
  | [] => .ok result
  | _ => .error .malformedJson

mutual

/-- The value in JSON. Octets are given in hexadecimal, addresses and types by their printed
forms. -/
def json : Value → String
  | .null => "null"
  | .bool b => if b then "true" else "false"
  | .int number => toString number
  | .float number => JsonText.printedFloat number
  | .text s => JsonText.printedString s
  | .brokenText broken => JsonText.printedBroken broken
  | .bytes octets | .buffer octets => JsonText.printedString octets.hex
  | .list members | .tuple members => "[" ++ joined (jsonAll members) ++ "]"
  | .map members => "\x7b" ++ joined (jsonEntries members) ++ "\x7d"
  | .address a => JsonText.printedString a.text
  | .type tag => JsonText.printedString tag.text

/-- Each value in JSON. -/
def jsonAll : List Value → List String
  | [] => []
  | member :: rest => json member :: jsonAll rest

/-- Each entry in JSON. -/
def jsonEntries : List (Value × Value) → List String
  | [] => []
  | (key, member) :: rest => (json key ++ ": " ++ json member) :: jsonEntries rest

end

end Value

end MoveClient
