import Keyset.Filter.Basic
import Keyset.Json.Mismatch
import Keyset.Json.Reader
import Keyset.Value.Wire

/-! # Filters as JSON

A node is written as an object of the parts that are present, and read from an object or from an
array of the parts in their order. Null stands for an absent part, and members with other names
are passed over.
-/

namespace Keyset

namespace ValueType

/-- The name of a value type. -/
def name : ValueType → String
  | array => "Array"
  | scalar => "Scalar"

/-- The value type of a name: any name but one is that of a scalar. -/
def ofName (name : String) : ValueType :=
  if name = "Array" then array else scalar

end ValueType

namespace Filter

/-- A member, if the part is present. -/
def part (name : String) (json : Option Json) : List (String × Json) :=
  match json with
  | some json => [(name, json)]
  | none => []

mutual

/-- The JSON object of a filter. -/
def toJson : Filter → Json
  | ⟨field, value, valueType, operator, children⟩ =>
    .object
      (part "field" (field.map .string) ++ part "value" (value.map (Value.toJson .letter)) ++
        part "valueType" (valueType.map fun type => .string type.name) ++
        part "operator" (operator.map fun op => .string op.name) ++
        part "search" (match children with
          | some children => some (.array (toJsons children))
          | none => none))

def toJsons : List Filter → List Json
  | [] => []
  | node :: rest => toJson node :: toJsons rest

end

/-- The names of the parts in their order. -/
def partNames : List String := ["field", "value", "valueType", "operator", "search"]

/-- Whether members of that name are no part of a node. -/
def isForeign (name : String) : Bool :=
  !partNames.contains name

/-- The operator of that name. -/
def readOperator (name : String) : Except Json.Mismatch Operator :=
  match Operator.ofName? name with
  | some op => .ok op
  | none => .error (.unknownOperator name)

/-- A node with a part read from JSON, the children being read already. -/
def withPart (readValue : Json → Option Value) (name : String) (json : Json) (node : Filter) :
    Except Json.Mismatch Filter :=
  match name, json with
  | _, .null => .ok node
  | "field", .string field => .ok { node with field := some field }
  | "operator", .string operator =>
    (readOperator operator).map fun op => { node with operator := some op }
  | "value", json =>
    match readValue json with
    | some value => .ok { node with value := some value }
    | none => .error .shape
  | "valueType", json =>
    match json.variant? with
    | some type => .ok { node with valueType := some (ValueType.ofName type) }
    | none => .error .shape
  | _, _ => .error .shape

mutual

/-- The filter of a JSON tree, its values being read by `readValue`. -/
def read (readValue : Json → Option Value) : Json → Except Json.Mismatch Filter
  | .object members => readMembers readValue [] members empty
  | .array parts => readParts readValue partNames parts empty
  | _ => .error .shape

def readList (readValue : Json → Option Value) : List Json → Except Json.Mismatch (List Filter)
  | [] => .ok []
  | json :: rest => do
    let node ← read readValue json
    let nodes ← readList readValue rest
    .ok (node :: nodes)

/-- A node with one part read from JSON. -/
def readPart (readValue : Json → Option Value) (name : String) (node : Filter) :
    Json → Except Json.Mismatch Filter
  | .array items =>
    if name = "search" then
      (readList readValue items).map fun children => { node with children := some children }
    else withPart readValue name (.array items) node
  | json => withPart readValue name json node

/-- A node with the parts of an object's members. No part may be given twice. -/
def readMembers (readValue : Json → Option Value) (seen : List String) :
    List (String × Json) → Filter → Except Json.Mismatch Filter
  | [], node => .ok node
  | (name, json) :: rest, node =>
    if isForeign name then readMembers readValue seen rest node
    else if seen.contains name then .error .shape
    else do
      let node ← readPart readValue name node json
      readMembers readValue (name :: seen) rest node

/-- A node with the parts of an array's items. -/
def readParts (readValue : Json → Option Value) (names : List String) :
    List Json → Filter → Except Json.Mismatch Filter
  | [], node => .ok node
  | json :: rest, node =>
    match names with
    | [] => .error .shape
    | name :: names => do
      let node ← readPart readValue name node json
      readParts readValue names rest node

end

/-- The filter of a JSON tree. -/
def ofJson (json : Json) : Except Json.Mismatch Filter :=
  read Value.ofJson? json

/-- The filter of a JSON text. -/
def ofText? (text : String) : Option Filter := do
  let json ← Json.readPassing? isForeign Json.depthLimit text.toList
  (ofJson json).toOption

end Filter

end Keyset
