import Keyset.Cql
import Keyset.Error
import Keyset.Page

/-! # Browsing sessions

A session browses a store of records page by page. It keeps the order, the filter and the
position that was reached; `Keyset.Session.page` turns to the next page in a direction. A step
that fails leaves no new session.
-/

namespace Keyset

/-- A store of records and how it is browsed. -/
structure Session where
  store : List Record
  order : Order
  idField : String
  /-- Whether the record at the position belongs to the next page. -/
  inclusive : Bool
  fallback : Fallback
  arrays : ArrayStrategy
  declarations : Declarations
  filter : Filter
  fields : PositionFields
  /-- The token of the record that was reached. -/
  position : Option String

/-- A page of a session: the predicate that its records satisfy, and the records. -/
structure Session.Page where
  predicate : Predicate
  connection : Connection

namespace Session

/-- A session with an empty store. -/
def empty : Session where
  store := []
  order := []
  idField := "id"
  inclusive := false
  fallback := .unconstrained
  arrays := .delimited
  declarations := .empty
  filter := .empty
  fields := .all
  position := none

instance : Inhabited Session := ⟨empty⟩

/-- Add records to the store. -/
def load (session : Session) (records : List Record) : Session :=
  { session with store := session.store ++ records }

/-- Remove the records that satisfy a filter from the store. -/
def delete (session : Session) (filter : Filter) : Except Error Session := do
  let predicate ← (filter.toPredicate session.declarations .delimited).mapError .compile
  let kept ← ((Predicate.not predicate).select session.store).mapError .eval
  .ok { session with store := kept }

/-- Make the ids the last level of the order, if they are no level yet. -/
def breakTies (session : Session) : Session :=
  { session with order := Order.withTieBreaker session.order session.idField }

/-- Reverse the order. -/
def reverse (session : Session) : Session :=
  { session with order := Order.reversed session.order }

/-- The predicate of the filter. -/
def predicate (session : Session) : Except Error Predicate :=
  (session.filter.toPredicate session.declarations session.arrays).mapError .compile

/-- Take another filter, if it has a predicate. -/
def useFilter (session : Session) (filter : Filter) : Except Error (Session × Predicate) := do
  let next := { session with filter := filter }
  let predicate ← next.predicate
  .ok (next, predicate)

/-- The CQL condition of the filter. -/
def cql (session : Session) (allowFiltering : Bool) : Except Error String :=
  (Cql.condition session.declarations allowFiltering session.filter).mapError .compile

/-- The condition of the records past the position. Without a position every record matches. -/
def condition (session : Session) (direction : PageDirection) : Except Error Predicate :=
  match session.position with
  | none => .ok .unconstrained
  | some token => do
    let cursor ← (Position.decode token).mapError .position
    let place := CursorCondition.mk session.order cursor session.idField session.inclusive
      session.fallback
    (place.build direction).mapError .cursor

/-- The next page in a direction. The position becomes that of its last record; an empty page
leaves it. -/
def page (session : Session) (direction : PageDirection) (limit : Option Nat) :
    Except Error (Session × Page) := do
  let past ← session.condition direction
  let wanted ← session.predicate
  let predicate := Predicate.andAll [wanted, past]
  let connection ← (Connection.ofStore session.fields (direction.keys session.order) limit
    predicate session.store).mapError .eval
  .ok ({ session with position := connection.endPosition <|> session.position },
    ⟨predicate, connection⟩)

/-- Go to the position of a token, which has to mark a record. -/
def seek (session : Session) (token : String) : Except Error (Session × Cursor) := do
  let cursor ← (Position.decode token).mapError .position
  .ok ({ session with position := some token }, cursor)

/-- Go back to the start. -/
def reset (session : Session) : Session :=
  { session with position := none }

/-- The ids that no record of the store has. -/
def missing (session : Session) (ids : List Value) : Except Error (List Value) :=
  (Existence.missingFrom session.declarations session.idField session.store ids).mapError
    .existence

end Session

end Keyset
