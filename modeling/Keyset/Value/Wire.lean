import Keyset.Json.Writer
import Keyset.Value.Basic

/-! # Values as JSON

Values are written as JSON values of the same kind; a timestamp becomes its text, and a double
that is not finite becomes null. Reading knows no timestamps: a JSON string is a string. Where
only values may stand, an object is refused (`Keyset.Value.ofJson?`); where any JSON may stand,
an object becomes the string of its text (`Keyset.Value.ofAnyJson`).
-/

namespace Keyset.Value

mutual

/-- The JSON of a value, with the given spelling of the offset of timestamps. -/
def toJson (offset : Time.ZeroOffset) : Value → Json
  | null => .null
  | bool b => .bool b
  | int n => .number (.integer n.toInt)
  | float x => if x.isNaN || x.isInf then .null else .number (.real x)
  | string s => .string s
  | array items => .array (toJsons offset items)
  | timestamp t => .string (t.text offset)

def toJsons (offset : Time.ZeroOffset) : List Value → List Json
  | [] => []
  | item :: rest => toJson offset item :: toJsons offset rest

end

/-- The value of a JSON number: whole numbers of 64 bits with a sign stay whole. -/
def ofNumber : Json.Number → Value
  | .integer n =>
    if Int64.minValue.toInt ≤ n && n ≤ Int64.maxValue.toInt then int (Int64.ofInt n)
    else float (Float.ofInt n)
  | .real x => float x

mutual

/-- The value of a JSON tree without objects. -/
def ofJson? : Json → Option Value
  | .null => some null
  | .bool b => some (bool b)
  | .number n => some (ofNumber n)
  | .string s => some (string s)
  | .array items => (ofJsons? items).map array
  | .object _ => none

def ofJsons? : List Json → Option (List Value)
  | [] => some []
  | item :: rest => do
    let value ← ofJson? item
    let values ← ofJsons? rest
    some (value :: values)

end

mutual

/-- The value of any JSON tree, an object being read as its text. -/
def ofAnyJson : Json → Value
  | .null => null
  | .bool b => bool b
  | .number n => ofNumber n
  | .string s => string s
  | .array items => array (ofAnyJsons items)
  | .object members => string (Json.object members).canonical.text

def ofAnyJsons : List Json → List Value
  | [] => []
  | item :: rest => ofAnyJson item :: ofAnyJsons rest

end

end Keyset.Value
