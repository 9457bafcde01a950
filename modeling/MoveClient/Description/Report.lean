import MoveClient.Codec.Emission
import MoveClient.Description
import MoveClient.Value.Printed

/-!
Reports: values and descriptions as JSON.

Integers and floating-point numbers stand as text, so that no reader rounds them. The entries of
a map stand as pairs, since its keys need not be text. A record names its type first.
-/

namespace MoveClient

/-- A map with text keys. -/
def Value.record (fields : List (String × Value)) : Value :=
  .map (fields.map fun field => (.text field.1, field.2))

/-- An integer as text. -/
def Value.numeral (number : Int) : Value :=
  .text (toString number)

/-- An integer as text, unless it has too many digits to be shown. -/
def Value.shortNumeral (number : Int) : Except Error Value :=
  if number.natAbs < 10 ^ Emission.maxShownDigits then .ok (.numeral number)
  else .error .numberTooLong

mutual

/-- The report of a value. -/
def Value.report : Value → Value
  | .null => .null
  | .bool b => .bool b
  | .int number => .numeral number
  | .float number => .text (Shortest.text Value.floatRange number)
  | .text s => .text s
  | .brokenText broken => .brokenText broken
  | .bytes octets | .buffer octets => .text octets.hex
  | .list items | .tuple items => .list (reportAll items)
  | .map entries => .list (reportEntries entries)
  | .address a => .text a.longText
  | .type tag => .text tag.text

/-- The reports of several values. -/
def Value.reportAll : List Value → List Value
  | [] => []
  | item :: rest => item.report :: reportAll rest

/-- The reports of the entries of a map, as pairs. -/
def Value.reportEntries : List (Value × Value) → List Value
  | [] => []
  | (key, value) :: rest => .list [key.report, value.report] :: reportEntries rest

end

mutual

/-- The report of a description. -/
def Description.report : Description → Value
  | .value v => v.report
  | .list items => .list (reportAll items)
  | .record type fields => .record (("type", .text type) :: reportFields fields)

/-- The reports of several descriptions. -/
def Description.reportAll : List Description → List Value
  | [] => []
  | item :: rest => item.report :: reportAll rest

/-- The reports of the fields of a record. -/
def Description.reportFields : List (String × Description) → List (String × Value)
  | [] => []
  | (name, field) :: rest => (name, field.report) :: reportFields rest

end

mutual

/-- How a type is put together: a primitive's name, or the form of the type with its parts. -/
def TypeTag.outline : TypeTag → Value
  | .primitive type => .text type.name
  | .vector element => .list [.text "vector", element.outline]
  | .reference target => .list [.text "ref", target.outline]
  | .generic index => .list [.text "generic", .numeral index]
  | .struct address module name arguments =>
      .list [.text "struct", .text address.longText, .text module, .text name,
        .list (outlineAll arguments)]

/-- How several types are put together. -/
def TypeTag.outlineAll : List TypeTag → List Value
  | [] => []
  | tag :: rest => tag.outline :: outlineAll rest

end

end MoveClient
