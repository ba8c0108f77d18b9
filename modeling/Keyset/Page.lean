import Keyset.Connection
import Keyset.Predicate.Eval
import Keyset.Sorting

/-! # Pages of a store

A page of a store holds the records that satisfy a predicate, sorted, up to a limit
(`Keyset.Connection.ofStore`). More records follow if the limit left any out.
-/

namespace Keyset

/-- How records are put in an order before a page is cut off. -/
def PageDirection.keys (direction : PageDirection) (order : Order) : List SortKey :=
  match direction with
  | .forward => order.keys
  | .backward => (Order.reversed order).keys

/-- The first records up to a limit, if there is one. -/
def upTo (limit : Option Nat) (records : List Record) : List Record :=
  match limit with
  | some limit => Sorting.truncate limit records
  | none => records

/-- The page of the records of a store that satisfy a predicate. -/
def Connection.ofStore (fields : PositionFields) (keys : List SortKey) (limit : Option Nat)
    (predicate : Predicate) (store : List Record) : Except EvalError Connection := do
  let hits ← predicate.select store
  let page := upTo limit (Sorting.sort keys hits)
  .ok (assemble fields (page.length < hits.length) page)

end Keyset
