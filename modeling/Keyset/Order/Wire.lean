import Keyset.Json.Mismatch
import Keyset.Order.Basic

/-! # Orders as JSON

An order is written as an array of its levels, a level as an array of its field and the name of
its direction, and reading accepts what writing produces (`Keyset.Order.ofJson?_toJson`).
-/

namespace Keyset

/-- The direction that a JSON tree names. -/
def Direction.ofJson? (json : Json) : Option Direction :=
  json.variant?.bind Direction.ofName?

/-- The JSON of a level. -/
def OrderEntry.toJson (entry : OrderEntry) : Json :=
  .array [.string entry.field, .string entry.direction.name]

/-- The level of a JSON array of a field and a direction. -/
def OrderEntry.ofJson? : Json → Option OrderEntry
  | .array [.string field, direction] =>
    (Direction.ofJson? direction).map fun direction => ⟨field, direction⟩
  | _ => none

theorem OrderEntry.ofJson?_toJson (entry : OrderEntry) : ofJson? entry.toJson = some entry := by
  obtain ⟨field, direction⟩ := entry
  simp [toJson, ofJson?, Direction.ofJson?, Json.variant?, Direction.ofName?_name]

namespace Order

/-- The JSON of an order. -/
def toJson (order : Order) : Json :=
  .array (order.map OrderEntry.toJson)

/-- The order of a JSON array of levels. -/
def ofJson? : Json → Option Order
  | .array levels => levels.mapM OrderEntry.ofJson?
  | _ => none

/-- The JSON of an order reads back as the order. -/
theorem ofJson?_toJson (order : Order) : ofJson? (toJson order) = some order := by
  simp only [ofJson?, toJson]
  induction order with
  | nil => rfl
  | cons entry rest ih =>
      simp only [List.map_cons, List.mapM_cons, OrderEntry.ofJson?_toJson, ih]
      rfl

end Order

end Keyset
