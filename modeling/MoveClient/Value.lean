import MoveClient.Number.Binary64
import MoveClient.Text.Broken
import MoveClient.TypeTag

/-!
Values of no fixed type.

Callers hand over arguments, options and transaction fields as they have them, and nodes answer
with JSON: both are values of one type. What a value is allowed to be is decided where it is
used, and the error of a misfit names the value or its kind. Text with a half of a character is
text of the same kind as any other, but kept apart, since it is no sequence of characters.
-/

namespace MoveClient

/-- A value as a caller or a node gives it. -/
inductive Value where
  | null
  | bool (b : Bool)
  | int (number : Int)
  | float (number : Binary64)
  | text (s : String)
  | brokenText (broken : BrokenText)
  | bytes (octets : Bytes)
  | buffer (octets : Bytes)
  | list (items : List Value)
  | tuple (items : List Value)
  | map (entries : List (Value × Value))
  | address (a : Address)
  | type (tag : TypeTag)
deriving Repr

instance : Inhabited Value := ⟨.null⟩

namespace Value

/-- The name of the value's kind, as messages give it. -/
def kindName : Value → String
  | .null => "NoneType"
  | .bool _ => "bool"
  | .int _ => "int"
  | .float _ => "float"
  | .text _ | .brokenText _ => "str"
  | .bytes _ => "bytes"
  | .buffer _ => "bytearray"
  | .list _ => "list"
  | .tuple _ => "tuple"
  | .map _ => "dict"
  | .address _ => "AccountAddress"
  | .type _ => "TypeTag"

/-- The number in a value that counts as one: truth values count as zero and one. -/
def integer? : Value → Option Int
  | .bool b => some (if b then 1 else 0)
  | .int number => some number
  | _ => none

mutual

/-- Equality of values as callers see it: numbers are equal by their value, whatever their kind,
byte strings by their octets, and maps by their entries in any order. -/
def same : Value → Value → Bool
  | .null, .null => true
  | .bool b, .bool b' => b == b'
  | .bool b, .int number | .int number, .bool b => number == if b then 1 else 0
  | .int number, .int number' => number == number'
  | .float number, .float number' => number.sameNumber number'
  | .float number, .int integer | .int integer, .float number => number.isInteger integer
  | .float number, .bool b | .bool b, .float number => number.isInteger (if b then 1 else 0)
  | .text s, .text s' => s == s'
  | .brokenText broken, .brokenText broken' => broken == broken'
  | .bytes octets, .bytes octets' | .bytes octets, .buffer octets'
  | .buffer octets, .bytes octets' | .buffer octets, .buffer octets' => octets == octets'
  | .list items, .list items' | .tuple items, .tuple items' => sameAll items items'
  | .map entries, .map entries' => entries.length == entries'.length && sameEntries entries entries'
  | .address a, .address a' => a == a'
  | .type tag, .type tag' => tag == tag'
  | _, _ => false

/-- Equality of lists of values, item by item. -/
def sameAll : List Value → List Value → Bool
  | [], [] => true
  | item :: rest, item' :: rest' => same item item' && sameAll rest rest'
  | _, _ => false

/-- Whether every entry of the first list has an equal one in the second. -/
def sameEntries : List (Value × Value) → List (Value × Value) → Bool
  | [], _ => true
  | (key, value) :: rest, entries =>
      entries.any (fun entry => same key entry.1 && same value entry.2) && sameEntries rest entries

end

mutual

/-- Whether the value may be a key of a map: lists, maps and byte buffers may not. -/
def isKey : Value → Bool
  | .list _ | .map _ | .buffer _ => false
  | .tuple items => areKeys items
  | _ => true

/-- Whether all values may be keys of a map. -/
def areKeys : List Value → Bool
  | [] => true
  | item :: rest => isKey item && areKeys rest

end

/-- Sets the value of a key: a key that is there keeps its place. -/
def setEntry (key value : Value) : List (Value × Value) → List (Value × Value)
  | [] => [(key, value)]
  | entry :: rest =>
      if same entry.1 key then (entry.1, value) :: rest else entry :: setEntry key value rest

/-- The entries of a map built from pairs in order: a repeated key keeps its first place and its
last value. -/
def entriesOf (pairs : List (Value × Value)) : List (Value × Value) :=
  pairs.foldl (fun entries pair => setEntry pair.1 pair.2 entries) []

/-- The value of a text key of a map. -/
def field? (name : String) : Value → Option Value
  | .map entries => (entries.find? fun entry => same entry.1 (.text name)).map Prod.snd
  | _ => none

/-- Whether the value counts as true where a condition is wanted: everything does but null,
false, zero and what is empty. -/
def isTruthy : Value → Bool
  | .null => false
  | .bool b => b
  | .int number => number != 0
  | .float number => !number.isInteger 0
  | .text s => s != ""
  | .bytes octets | .buffer octets => !octets.isEmpty
  | .list items | .tuple items => !items.isEmpty
  | .map entries => !entries.isEmpty
  | .brokenText _ | .address _ | .type _ => true

/-- The text that code points make up. -/
def ofCodePoints (points : List CodePoint) : Value :=
  match CodePoint.split points with
  | .inl characters => .text (String.ofList characters)
  | .inr broken => .brokenText broken

theorem ofCodePoints_characters (s : String) :
    ofCodePoints (s.toList.map .character) = .text s := by
  rw [ofCodePoints, CodePoint.split_characters]
  exact congrArg text String.ofList_toList

/-- The texts that a text is made of, one for each code point. -/
def textsOf (points : List CodePoint) : List Value :=
  points.map fun point => ofCodePoints [point]

end Value

end MoveClient
