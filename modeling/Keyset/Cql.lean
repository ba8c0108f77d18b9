import Keyset.AttributeType
import Keyset.CompileError
import Keyset.Filter.Basic
import Keyset.Value.Text

/-! # CQL conditions

A CQL condition is a conjunction of relations. A filter has one if it is a single leaf, or a
conjunction of leaves and empty nodes (`Keyset.Cql.condition`). Literals are quoted if the
declared type says so, or, for a field without declaration, if the value is a string or a
timestamp; a quote inside a literal is written twice.
-/

namespace Keyset.Cql

/-- The characters of a text with every quote doubled. -/
def doubleQuotes (text : List Char) : List Char :=
  text.flatMap fun c => if c = '\'' then ['\'', '\''] else [c]

/-- A text as a quoted literal. -/
def quote (text : String) : String :=
  "'" ++ String.ofList (doubleQuotes text.toList) ++ "'"

mutual

/-- The literal of a value. -/
def literal (quoted : Bool) : Value → String
  | .null => "NULL"
  | .array items => "(" ++ ", ".intercalate (literals quoted items) ++ ")"
  | value => if quoted then quote value.rawText else value.rawText

def literals (quoted : Bool) : List Value → List String
  | [] => []
  | item :: rest => literal quoted item :: literals quoted rest

end

/-- Whether the literals of a field are quoted. -/
def isQuoted (declarations : Declarations) (field : String) (value : Value) : Bool :=
  match declarations.type? field with
  | some type => type.element.isQuoted
  | none =>
    match value with
    | .string _ => true
    | .timestamp _ => true
    | _ => false

/-- The relation of an operator. -/
def relationSymbol (op : Operator) : Except CompileError String :=
  match op with
  | .eq => .ok "="
  | .lt => .ok "<"
  | .gt => .ok ">"
  | .lte => .ok "<="
  | .gte => .ok ">="
  | .isIn => .ok "IN"
  | .contains => .ok "CONTAINS"
  | .containsKey => .ok "CONTAINS KEY"
  | .and => .error (.missingChildren op)
  | op => .error (.unsupported .cql op)

/-- The relation between the partition tokens of a field and of a value. -/
def tokenRelation (field : String) (op : Operator) (value : Value) : String :=
  "token(" ++ field ++ ") " ++ op.symbol ++ " token(" ++ quote value.rawText ++ ")"

/-- The relation of a leaf. -/
def relation (declarations : Declarations) (field : String) (op : Operator) (value : Value) :
    Except CompileError String :=
  match op with
  | .tokenLt => .ok (tokenRelation field op value)
  | .tokenGt => .ok (tokenRelation field op value)
  | op => (relationSymbol op).map fun symbol =>
    field ++ " " ++ symbol ++ " " ++ literal (isQuoted declarations field value) value

/-- The text of a node, that of a conjunction being made by `conjunction`. An empty node has the
empty text. -/
def nodeText (declarations : Declarations)
    (conjunction : List Filter → Except CompileError String) (node : Filter) :
    Except CompileError String :=
  if node.operator = some .or then .error (.unsupported .cql .or)
  else
    match node.shape with
    | .empty => .ok ""
    | .global op _ => .error (.withoutField op)
    | .leaf field op _ => relation declarations field op node.parsedValue
    | .combine .and children => conjunction children
    | .combine op _ => .error (.unsupported .cql op)
    | .grouped field op _ => .error (.grouped op field)

/-- The text of a part of a conjunction, which cannot be one itself. -/
def partText (declarations : Declarations) (node : Filter) : Except CompileError String :=
  nodeText declarations (fun _ => .error .nestedConjunction) node

/-- The texts of the parts that are not empty, joined. -/
def conjunctionText (declarations : Declarations) (children : List Filter) :
    Except CompileError String := do
  let parts ← children.mapM (partText declarations)
  .ok (" and ".intercalate (parts.filter fun part => !part.isEmpty))

/-- The condition of a filter. A condition that is not empty may allow a full scan. -/
def condition (declarations : Declarations) (allowFiltering : Bool) (filter : Filter) :
    Except CompileError String := do
  let text ← nodeText declarations (conjunctionText declarations) filter
  .ok (if allowFiltering && !text.isEmpty then text ++ " ALLOW FILTERING" else text)

end Keyset.Cql
