import Keyset.Json.Basic

/-! # JSON trees that do not fit

A tree may fail to describe what it is read as. The cause is kept only where a name of the
vocabulary is at fault.
-/

namespace Keyset

/-- Why a text or a tree does not describe what it is read as. -/
inductive Json.Mismatch
  /-- The text is not JSON, or the tree has another shape. -/
  | shape
  /-- There is no operator of that name. -/
  | unknownOperator (name : String)
  /-- The token is no direction. -/
  | unknownDirection (token : String)
deriving DecidableEq

namespace Json

/-- The name of a member of an enumeration: a string, or the name of the only member of an
object whose value is null. -/
def variant? : Json → Option String
  | string name => some name
  | object [(name, null)] => some name
  | _ => none

end Json

end Keyset
