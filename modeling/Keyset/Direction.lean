import Keyset.Text.Blank

/-! # Directions of sorting

A level of an order is ascending or descending. A direction is read exactly as it is written
(`Keyset.Direction.ofName?`), or, in sort keys, in any case and between blanks
(`Keyset.Direction.ofToken?`).
-/

namespace Keyset

/-- Ascending or descending. -/
inductive Direction
  | asc
  | desc
deriving DecidableEq

namespace Direction

/-- The name of a direction. -/
def name : Direction → String
  | asc => "ASC"
  | desc => "DESC"

/-- The opposite direction. -/
def reverse : Direction → Direction
  | asc => desc
  | desc => asc

/-- The direction of exactly that name. -/
def ofName? (name : String) : Option Direction :=
  if name = "ASC" then some asc else if name = "DESC" then some desc else none

/-- A token as a direction is looked up: without blanks at its ends, the small letters of ASCII
being made capitals. -/
def normalToken (token : String) : String :=
  (Text.trim token).map Char.toUpper

/-- The direction of a token in any case. -/
def ofToken? (token : String) : Option Direction :=
  ofName? (normalToken token)

@[simp] theorem reverse_reverse (direction : Direction) :
    direction.reverse.reverse = direction := by
  cases direction <;> rfl

/-- The name of a direction reads back as the direction. -/
theorem ofName?_name (direction : Direction) : ofName? direction.name = some direction := by
  cases direction <;> rfl

end Direction

end Keyset
