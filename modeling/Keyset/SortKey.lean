import Keyset.Order.Wire
import Keyset.Text.Split

/-! # Sort keys

The keys of sorting a list of records. They carry the same data as the levels of an order, but
their directions are read in any case. A key is written as an object, and read from an object or
from an array of its two parts.
-/

namespace Keyset

/-- One key of a sort, the most significant first. -/
structure SortKey where
  field : String
  direction : Direction
deriving DecidableEq

namespace SortKey

/-- The key of a field and a token for its direction. -/
def ofToken (field token : String) : Except OrderError SortKey :=
  (Direction.ofToken token).map fun direction => ⟨field, direction⟩

/-- The key of a level of an order. -/
def ofEntry (entry : OrderEntry) : SortKey :=
  ⟨entry.field, entry.direction⟩

/-- The key of a text of a field and, after a bar, a token for its direction. Without a bar the
direction is ascending. -/
def ofText (text : String) : Except OrderError SortKey :=
  match Text.cutOnce? '|' text with
  | some (field, token) => ofToken (Text.trim field) (Text.trim token)
  | none => .ok ⟨Text.trim text, .asc⟩

/-- The JSON object of a key. -/
def toJson (key : SortKey) : Json :=
  .object [("field", .string key.field), ("order", .string key.direction.name)]

/-- The parts of a key that are read already. -/
structure Parts where
  field : Option String
  direction : Option Direction

/-- The parts with one part read from JSON. -/
def Parts.add (parts : Parts) (name : String) (json : Json) : Except Json.Mismatch Parts :=
  match name, json with
  | "field", .string field => .ok { parts with field := some field }
  | "order", .string token =>
    match Direction.ofToken? token with
    | some direction => .ok { parts with direction := some direction }
    | none => .error (.unknownDirection (Direction.normalToken token))
  | "field", _ => .error .shape
  | "order", _ => .error .shape
  | _, _ => .ok parts

/-- The key of parts that are both present. -/
def Parts.key (parts : Parts) : Except Json.Mismatch SortKey :=
  match parts.field, parts.direction with
  | some field, some direction => .ok ⟨field, direction⟩
  | _, _ => .error .shape

/-- The parts of the members in their order. -/
def Parts.ofMembers (members : List (String × Json)) : Except Json.Mismatch Parts :=
  members.foldlM (fun parts member => parts.add member.1 member.2) ⟨none, none⟩

/-- The key that a JSON tree describes. The parts are read in their order; other members of an
object are passed over, other items of an array are not. -/
def ofJson : Json → Except Json.Mismatch SortKey
  | .object members => do
    let parts ← Parts.ofMembers members
    parts.key
  | .array items => do
    let parts ← Parts.ofMembers (["field", "order"].zip items)
    if items.length ≤ 2 then parts.key else .error .shape
  | _ => .error .shape

end SortKey

/-- The sort keys of an order. -/
def Order.keys (order : Order) : List SortKey :=
  order.map SortKey.ofEntry

end Keyset
