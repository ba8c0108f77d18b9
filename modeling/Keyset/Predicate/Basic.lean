import Keyset.Operator
import Keyset.Value.Text
import Keyset.Value.Wire

/-! # Predicates

Boolean expressions over the fields of a record: what filters and cursors are compiled to. A
predicate is shown as text (`Keyset.Predicate.text`) and written as nested JSON objects with one
member each (`Keyset.Predicate.toJson`).
-/

namespace Keyset

/-- A condition on records. -/
inductive Predicate
  /-- No constraint. -/
  | unconstrained
  | and (parts : List Predicate)
  | or (parts : List Predicate)
  | not (part : Predicate)
  /-- A field compared with a value. -/
  | compare (field : String) (op : Operator) (value : Value)
  /-- An operator and a value without a field. -/
  | global (op : Operator) (value : Value)
  /-- An operator of a field across predicates. -/
  | within (field : String) (op : Operator) (parts : List Predicate)

namespace Predicate

instance : Inhabited Predicate := ⟨unconstrained⟩

/-- Whether the predicate is no constraint. -/
def isUnconstrained : Predicate → Bool
  | unconstrained => true
  | _ => false

/-- The conjunction of predicates, those that are no constraint being left out. -/
def andAll (parts : List Predicate) : Predicate :=
  match parts.filter fun part => !part.isUnconstrained with
  | [] => unconstrained
  | [part] => part
  | parts => and parts

mutual

/-- The text of a predicate. -/
def text : Predicate → String
  | unconstrained => "TRUE"
  | and parts => "(" ++ " AND ".intercalate (texts parts) ++ ")"
  | or parts => "(" ++ " OR ".intercalate (texts parts) ++ ")"
  | not part => "NOT " ++ text part
  | compare field op value => field ++ " " ++ op.symbol ++ " " ++ value.display
  | global op value => op.symbol ++ " " ++ value.display
  | within field op parts =>
    field ++ " " ++ op.symbol ++ " (" ++ ", ".intercalate (texts parts) ++ ")"

def texts : List Predicate → List String
  | [] => []
  | part :: rest => text part :: texts rest

end

mutual

/-- The JSON of a predicate. -/
def toJson : Predicate → Json
  | unconstrained => .object []
  | and parts => .object [(Operator.and.key, .array (toJsons parts))]
  | or parts => .object [(Operator.or.key, .array (toJsons parts))]
  | not part => .object [(Operator.not.key, toJson part)]
  | compare field op value => .object [(field, .object [(op.key, value.toJson .digits)])]
  | global op value => .object [(op.key, value.toJson .digits)]
  | within field op parts => .object [(field, .object [(op.key, .array (toJsons parts))])]

def toJsons : List Predicate → List Json
  | [] => []
  | part :: rest => toJson part :: toJsons rest

end

theorem andAll_append_unconstrained (front back : List Predicate) :
    andAll (front ++ unconstrained :: back) = andAll (front ++ back) := by
  unfold andAll
  rw [List.filter_append, List.filter_append]
  rfl

end Predicate

end Keyset
