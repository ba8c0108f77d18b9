import Keyset.Operator
import Keyset.Text.Split
import Keyset.Value.Basic

/-! # Filters

A filter is a tree of nodes as a user gives it: every part of a node may be absent. Its shape
(`Keyset.Filter.shape`) says what the parts that are present mean together. A string that is
marked as a list is cut at its commas (`Keyset.Filter.parsedValue?`).
-/

namespace Keyset

/-- How the value of a node is to be read. -/
inductive ValueType
  /-- A string is a list with commas between the items. -/
  | array
  /-- A value is read as it is. -/
  | scalar
deriving DecidableEq

/-- A node of a filter. -/
structure Filter where
  field : Option String
  value : Option Value
  valueType : Option ValueType
  operator : Option Operator
  children : Option (List Filter)

namespace Filter

/-- The node without parts. -/
def empty : Filter :=
  ⟨none, none, none, none, none⟩

instance : Inhabited Filter := ⟨empty⟩

/-- A value of a field. -/
def leaf (field : String) (op : Operator) (value : Value) : Filter :=
  { empty with field := some field, operator := some op, value := some value }

/-- A list of a field, as a string with commas. -/
def list (field : String) (op : Operator) (items : String) : Filter :=
  { leaf field op (.string items) with valueType := some .array }

/-- A value without a field. -/
def global (op : Operator) (value : Value) : Filter :=
  { empty with operator := some op, value := some value }

/-- An operator across nodes. -/
def combine (op : Operator) (children : List Filter) : Filter :=
  { empty with operator := some op, children := some children }

/-- An operator of a field across nodes. -/
def grouped (field : String) (op : Operator) (children : List Filter) : Filter :=
  { combine op children with field := some field }

/-- The filter of one id. -/
def ofId (idField : String) (id : Value) : Filter :=
  leaf idField .eq id

/-- What a node means. -/
inductive Shape
  /-- Nothing: the operator is absent, or both the value and the children are. -/
  | empty
  /-- An operator and a value. -/
  | global (op : Operator) (value : Value)
  /-- A field, an operator and a value. -/
  | leaf (field : String) (op : Operator) (value : Value)
  /-- An operator across the children. -/
  | combine (op : Operator) (children : List Filter)
  /-- A field and an operator across the children. -/
  | grouped (field : String) (op : Operator) (children : List Filter)

/-- The shape of a node. Children count before a value. -/
def shape (node : Filter) : Shape :=
  match node.operator with
  | none => .empty
  | some op =>
    match node.field, node.value, node.children with
    | _, none, none => .empty
    | none, some value, none => .global op value
    | some field, some value, none => .leaf field op value
    | none, _, some children => .combine op children
    | some field, _, some children => .grouped field op children

/-- Whether a node means nothing. -/
def isEmpty (node : Filter) : Bool :=
  match node.shape with
  | .empty => true
  | _ => false

/-- The value of a node as it is to be read. -/
def parsedValue? (node : Filter) : Option Value :=
  match node.valueType, node.value with
  | some .array, some (.string s) => some (.array ((Text.cutString ',' s).map .string))
  | _, value => value

/-- The value of a node as it is to be read, null if it is absent. -/
def parsedValue (node : Filter) : Value :=
  node.parsedValue?.getD .null

end Filter

end Keyset
