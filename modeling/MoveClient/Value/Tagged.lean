import MoveClient.Argument.Coercion
import MoveClient.Number.Written
import MoveClient.TypeTag.Parser
import MoveClient.Value.Layout

/-!
Values and layouts in JSON that names their kinds.

JSON has fewer kinds than values have. Null, truth values, text and lists stand for themselves; an
object with one entry names the kind of any other value, and its content is what makes that value
up. Octets are hexadecimal text, a list of parts, or a part that is repeated. A layout is a name,
or an object that names the kind of a composite layout.
-/

namespace MoveClient.Tagged

/-- The integer of a number or a numeral, decimal or hexadecimal; zero for anything else. -/
def integer : Value → Int
  | .int number => number
  | .text s =>
      (Numeral.read? (if s.contains 'x' then .hexadecimal else .decimal) s.toList).getD 0
  | _ => 0

/-- The content of a text; nothing else has any. -/
def text : Value → String
  | .text s => s
  | _ => ""

mutual

/-- Octets. -/
def octets : Value → Bytes
  | .text s => (Bytes.ofHex? s).getD []
  | .list parts => octetsOfAll parts
  | .map [(.text _, .list [part, count])] =>
      (List.replicate (integer count).toNat (octets part)).flatten
  | _ => []

/-- The octets of several parts. -/
def octetsOfAll : List Value → Bytes
  | [] => []
  | part :: rest => octets part ++ octetsOfAll rest

end

/-- A value that is given by its content alone. -/
def plain (kind : String) (content : Value) : Except Error Value :=
  match kind, content with
  | "int", _ => .ok (.int (integer content))
  | "bytes", _ => .ok (.bytes (octets content))
  | "bytearray", _ => .ok (.buffer (octets content))
  | "float", _ => .ok (.float ((Binary64.read? (text content).toList).getD .notANumber))
  | "rep", .list [part, count] =>
      .ok (.text (String.join (List.replicate (integer count).toNat (text part))))
  | "address", .null => .ok .null
  | "address", _ => Value.address <$> content.toAddress
  | _, _ => Value.type <$> TypeTag.parse (text content) true

/-- The map of pairs whose first parts can be keys. -/
def mapOf (pairs : List (Value × Value)) : Except Error Value :=
  if pairs.all fun pair => pair.1.isKey then .ok (.map (Value.entriesOf pairs))
  else .error .wrongKind

mutual

/-- A value. -/
def value : Value → Except Error Value
  | .list items => do .ok (.list (← values items))
  | .map [(.text kind, .list items)] =>
      if kind = "tuple" then do .ok (.tuple (← values items))
      else if kind = "pairs" then do mapOf (← pairs items)
      else plain kind (.list items)
  | .map [(.text kind, content)] => plain kind content
  | other => .ok other

/-- Several values. -/
def values : List Value → Except Error (List Value)
  | [] => .ok []
  | item :: rest => do
      let first ← value item
      .ok (first :: (← values rest))

/-- Pairs of values. -/
def pairs : List Value → Except Error (List (Value × Value))
  | [] => .ok []
  | .list [key, content] :: rest => do
      let key ← value key
      let content ← value content
      .ok ((key, content) :: (← pairs rest))
  | _ => .error .wrongKind

end

/-- The layout of a name; what is no other name is that of an integer. -/
def layoutOfName : String → Layout
  | "bool" => .bool
  | "uleb128" => .uleb128
  | "string" => .text
  | "bytes" => .bytes
  | "fixed_bytes" => .raw 0
  | "struct" => .struct .address
  | name => .integer ((IntegerType.ofName? name).getD .u8)

/-- The kind of values with a wire form of their own that a name stands for. -/
def structOfName : String → StructKind
  | "AccountAddress" => .address
  | "TypeTag" => .typeTag
  | _ => .structTag

/-- A layout. -/
def layout : Value → Layout
  | .text name => layoutOfName name
  | .map [(.text "map", .list [key, content])] => .map (layout key) (layout content)
  | .map [(.text "option", element)] => .option (layout element)
  | .map [(.text "seq", element)] => .sequence (layout element)
  | .map [(.text "fixed", size)] => .raw (integer size).toNat
  | .map [(_, kind)] => .struct (structOfName (text kind))
  | _ => .bool

end MoveClient.Tagged
