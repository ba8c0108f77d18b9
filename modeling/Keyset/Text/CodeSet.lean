/-! # Sets of code points

A property of characters is given by the code points at which membership changes.
`Keyset.Text.CodeSet.contains` walks the list of changes, so that membership of one
character is decided by evaluation.
-/

namespace Keyset.Text

/-- A set of code points. Membership starts at the first bound, ends at the second,
starts again at the third, and so on; the bounds increase. -/
structure CodeSet where
  bounds : List Nat

namespace CodeSet

/-- Membership of `code` after some bounds have been passed, of which the last one
started a run of members iff `inside`. -/
def containsFrom (code : Nat) : (inside : Bool) → List Nat → Bool
  | inside, [] => inside
  | inside, bound :: rest => if code < bound then inside else containsFrom code (!inside) rest

/-- Whether the set holds the character. -/
def contains (set : CodeSet) (c : Char) : Bool :=
  containsFrom c.toNat false set.bounds

end CodeSet

end Keyset.Text
