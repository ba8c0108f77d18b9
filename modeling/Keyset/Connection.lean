import Keyset.Json.Mismatch
import Keyset.Position

/-! # Connections

A page is handed out as a connection: its records with their position tokens, whether more
records follow, and the token of the last record.
-/

namespace Keyset

/-- A record of a page and its token. -/
structure Edge where
  value : Record
  position : String

/-- A page of records. -/
structure Connection where
  items : List Edge
  hasMore : Bool
  endPosition : Option String

namespace Connection

/-- The connection of the records of a page. -/
def assemble (fields : PositionFields) (hasMore : Bool) (records : List Record) : Connection :=
  let items := records.map fun record => ⟨record, Position.encode fields record⟩
  ⟨items, hasMore, items.getLast?.map Edge.position⟩

/-- How many records the page has. -/
def size (connection : Connection) : Nat :=
  connection.items.length

/-- The JSON of a record of a page. -/
def edgeJson (edge : Edge) : Json :=
  .object [("value", edge.value.toJson), ("position", .string edge.position)]

/-- The JSON of a page. -/
def toJson (connection : Connection) : Json :=
  .object [("items", .array (connection.items.map edgeJson)),
    ("hasMore", .bool connection.hasMore),
    ("endPosition", match connection.endPosition with
      | some position => .string position
      | none => .null)]

/-- The parts of a structure with the given names: the members of an object, which may have
others and lack some, or the items of an array, one for each name. -/
def parts? (names : List String) : Json → Option (List (Option Json))
  | .object members => some (names.map (Json.member? members))
  | .array items => if items.length = names.length then some (items.map some) else none
  | _ => none

/-- The record of a page that a JSON tree describes. -/
def edgeOfJson? (json : Json) : Option Edge := do
  match ← parts? ["value", "position"] json with
  | [some value, some (.string position)] =>
    let record ← Record.ofJson? value
    some ⟨record, position⟩
  | _ => none

/-- The page that a JSON tree describes. The end may be left out in an object. -/
def ofJson? (json : Json) : Option Connection := do
  match ← parts? ["items", "hasMore", "endPosition"] json with
  | [some (.array items), some (.bool hasMore), endPosition] =>
    let edges ← items.mapM edgeOfJson?
    match endPosition with
    | none => some ⟨edges, hasMore, none⟩
    | some .null => some ⟨edges, hasMore, none⟩
    | some (.string position) => some ⟨edges, hasMore, some position⟩
    | _ => none
  | _ => none

end Connection

end Keyset
