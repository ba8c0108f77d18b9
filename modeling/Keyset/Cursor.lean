import Keyset.Order.Basic
import Keyset.Predicate.Basic
import Keyset.Record

/-! # Conditions of a page

A cursor is a record that marks a place in an order. The records after it are those that, at
some level of the order, lie strictly past it while they tie with it at every level before
(`Keyset.CursorCondition.build`). The ids are a level of their own that never ties, unless the
cursor itself is to be included.
-/

namespace Keyset

/-- A record that marks a place in an order. -/
abbrev Cursor := Record

/-- Which records of the order are wanted. -/
inductive PageDirection
  /-- The records after the cursor. -/
  | forward
  /-- The records before the cursor. -/
  | backward
deriving DecidableEq

namespace PageDirection

/-- The name of a page direction. -/
def name : PageDirection → String
  | forward => "forward"
  | backward => "backward"

/-- The page direction of that name. -/
def ofName? (name : String) : Option PageDirection :=
  if name = "forward" then some forward else if name = "backward" then some backward else none

/-- The opposite page direction. -/
def reverse : PageDirection → PageDirection
  | forward => backward
  | backward => forward

/-- The comparison of the records that lie strictly past the cursor at a level. -/
def strict : PageDirection → Direction → Operator
  | forward, .asc => .gt
  | forward, .desc => .lt
  | backward, .asc => .lt
  | backward, .desc => .gt

/-- The comparison of the records that lie past the cursor at a level or tie with it. -/
def relaxed : PageDirection → Direction → Operator
  | forward, .asc => .gte
  | forward, .desc => .lte
  | backward, .asc => .lte
  | backward, .desc => .gte

end PageDirection

/-- What becomes of a page without a usable cursor. -/
inductive Fallback
  /-- Every record matches. -/
  | unconstrained
  /-- The page is refused. -/
  | reject
deriving DecidableEq

namespace Fallback

/-- The name of a fallback. -/
def name : Fallback → String
  | unconstrained => "unconstrained"
  | reject => "reject"

/-- The fallback of that name. -/
def ofName? (name : String) : Option Fallback :=
  if name = "unconstrained" then some unconstrained
  else if name = "reject" then some reject
  else none

end Fallback

/-- Why a cursor marks no place in an order. -/
inductive CursorDefect
  /-- The field of the ids has no name. -/
  | missingIdField
  /-- The ids are no level of the order. -/
  | orderWithoutId
  /-- The cursor has no id. -/
  | cursorWithoutId
deriving DecidableEq

namespace CursorDefect

/-- The text of a defect. -/
def text : CursorDefect → String
  | missingIdField => "no id attribute given"
  | orderWithoutId => "order does not include the id attribute"
  | cursorWithoutId => "cursor has no value for the id attribute"

/-- The sentence about the error. -/
def message (defect : CursorDefect) : String :=
  "Malformed cursor input: " ++ defect.text

end CursorDefect

/-- A place in an order, and how a page starts there. -/
structure CursorCondition where
  order : Order
  cursor : Cursor
  idField : String
  /-- Whether the cursor itself belongs to the page. -/
  inclusive : Bool
  fallback : Fallback

namespace CursorCondition

/-- The first defect of the place. -/
def defect? (condition : CursorCondition) : Option CursorDefect :=
  if condition.idField.isEmpty then some .missingIdField
  else if !Order.hasField condition.order condition.idField then some .orderWithoutId
  else if !condition.cursor.contains condition.idField then some .cursorWithoutId
  else none

/-- The comparison that opens a level: strict on the ids, unless the cursor is included. -/
def boundary (condition : CursorCondition) (direction : PageDirection) (entry : OrderEntry) :
    Operator :=
  if !condition.inclusive && entry.field = condition.idField then
    direction.strict entry.direction
  else direction.relaxed entry.direction

/-- The condition of the levels of an order. Past the last level nothing is left to compare; a
level before it is passed, or it ties and the further levels decide. -/
def levels (condition : CursorCondition) (direction : PageDirection) : Order → Predicate
  | [] => .unconstrained
  | [last] => .compare last.field (condition.boundary direction last)
      (condition.cursor.value last.field)
  | entry :: further =>
    let value := condition.cursor.value entry.field
    .and [.compare entry.field (condition.boundary direction entry) value,
      .or [.compare entry.field (direction.strict entry.direction) value,
        levels condition direction further]]

/-- The condition of the records on one side of the place. -/
def build (condition : CursorCondition) (direction : PageDirection) :
    Except CursorDefect Predicate :=
  match condition.defect?, condition.fallback with
  | none, _ => .ok (condition.levels direction condition.order)
  | some _, .unconstrained => .ok .unconstrained
  | some defect, .reject => .error defect

/-- The condition of the records after the place. -/
def after (condition : CursorCondition) : Except CursorDefect Predicate :=
  condition.build .forward

/-- The condition of the records before the place. -/
def before (condition : CursorCondition) : Except CursorDefect Predicate :=
  condition.build .backward

end CursorCondition

/-- The condition of the records on one side of a cursor; every record matches if the cursor
marks no place. -/
def pageCondition (direction : PageDirection) (order : Order) (cursor : Cursor) (idField : String)
    (inclusive : Bool) : Predicate :=
  match (CursorCondition.mk order cursor idField inclusive .unconstrained).build direction with
  | .ok predicate => predicate
  | .error _ => .unconstrained

/-- The condition of the records after a cursor. -/
def afterCursor (order : Order) (cursor : Cursor) (idField : String) (inclusive : Bool) :
    Predicate :=
  pageCondition .forward order cursor idField inclusive

/-- The condition of the records before a cursor. -/
def beforeCursor (order : Order) (cursor : Cursor) (idField : String) (inclusive : Bool) :
    Predicate :=
  pageCondition .backward order cursor idField inclusive

end Keyset
