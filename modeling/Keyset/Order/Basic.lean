import Keyset.Direction

/-! # Orders

An order is a list of fields with directions, the most significant first. For paging it has to
list every field once and the field of the ids among them (`Keyset.Order.validate`); adding the
field of the ids at the end (`Keyset.Order.withTieBreaker`) makes every order total.
-/

namespace Keyset

/-- One level of an order. -/
structure OrderEntry where
  field : String
  direction : Direction
deriving DecidableEq

/-- The text of a level. -/
def OrderEntry.text (entry : OrderEntry) : String :=
  entry.field ++ " " ++ entry.direction.name

/-- The levels of an order, the most significant first. -/
abbrev Order := List OrderEntry

/-- Why an order or a direction is not accepted. -/
inductive OrderError
  /-- The token is no direction. -/
  | direction (token : String)
  /-- The field occurs before. -/
  | repeated (field : String)
  /-- The field of the ids does not occur. -/
  | withoutId (idField : String)
deriving DecidableEq

/-- The sentence about the error. -/
def OrderError.message : OrderError → String
  | direction token => "Invalid order: direction '" ++ token ++ "' (expected ASC or DESC)"
  | repeated field => "Invalid order: field '" ++ field ++ "' appears more than once"
  | withoutId idField => "Invalid order: id attribute '" ++ idField ++ "' is not ordered"

/-- The direction of exactly that name, or an error with the name. -/
def Direction.ofName (name : String) : Except OrderError Direction :=
  match Direction.ofName? name with
  | some direction => .ok direction
  | none => .error (.direction name)

/-- The direction of a token in any case, or an error with the token as it was looked up. -/
def Direction.ofToken (token : String) : Except OrderError Direction :=
  Direction.ofName (Direction.normalToken token)

namespace Order

/-- The fields of an order. -/
def fields (order : Order) : List String :=
  order.map OrderEntry.field

/-- Whether a field occurs in the order. -/
def hasField (order : Order) (field : String) : Bool :=
  order.any fun entry => entry.field = field

/-- The order with the ids as its last level, unless they are a level already. -/
def withTieBreaker (order : Order) (idField : String) : Order :=
  if hasField order idField then order else order ++ [⟨idField, .asc⟩]

/-- The order with every direction reversed. -/
def reversed (order : Order) : Order :=
  order.map fun entry => ⟨entry.field, entry.direction.reverse⟩

/-- The text of an order. -/
def text (order : Order) : String :=
  ", ".intercalate (order.map OrderEntry.text)

/-- The first field that occurs before its place in the list. -/
def firstRepeated? (seen : List String) : List String → Option String
  | [] => none
  | field :: rest => if seen.contains field then some field else firstRepeated? (field :: seen) rest

/-- Whether the order lists every field once and the field of the ids among them. -/
def validate (order : Order) (idField : String) : Except OrderError Unit :=
  match firstRepeated? [] (fields order) with
  | some field => .error (.repeated field)
  | none => if hasField order idField then .ok () else .error (.withoutId idField)

theorem hasField_iff {order : Order} {field : String} :
    hasField order field = true ↔ field ∈ fields order := by
  simp only [hasField, fields, List.any_eq_true, List.mem_map, decide_eq_true_eq]

end Order

end Keyset
