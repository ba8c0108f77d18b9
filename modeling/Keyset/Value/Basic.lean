import Keyset.Time.Rfc3339

/-! # Values

The values of records, cursors and filters. `Keyset.Value.compare` relates values of one kind
only, numbers being one kind and a timestamp being comparable with a text that reads as one.
`Keyset.Value.sortCompare` makes an answer of every comparison: values that are not comparable
are ranked by kind, with null after all others.
-/

namespace Keyset

/-- A value of a field, or a list of values. -/
inductive Value
  | null
  | bool (b : Bool)
  | int (n : Int64)
  | float (x : Float)
  | string (s : String)
  | array (items : List Value)
  | timestamp (t : Time.Instant)

namespace Value

instance : Inhabited Value := ⟨null⟩

/-- Whether the value is null. -/
def isNull : Value → Bool
  | null => true
  | _ => false

/-- The text of a string value. -/
def string? : Value → Option String
  | string s => some s
  | _ => none

/-- The order of two doubles, of which a NaN takes no part. -/
def compareFloat (x y : Float) : Option Ordering :=
  if x < y then some .lt
  else if x == y then some .eq
  else if y < x then some .gt
  else none

/-- The double nearest to a whole number. -/
def floatOfInt (n : Int64) : Float :=
  Float.ofInt n.toInt

/-- How two values compare, if they are comparable. -/
def compare : Value → Value → Option Ordering
  | null, null => some .eq
  | bool a, bool b => some (Ord.compare a b)
  | int a, int b => some (Ord.compare a b)
  | int a, float b => compareFloat (floatOfInt a) b
  | float a, int b => compareFloat a (floatOfInt b)
  | float a, float b => compareFloat a b
  | string a, string b => some (Ord.compare a b)
  | timestamp a, timestamp b => some (a.compare b)
  | timestamp a, string b => (Time.Instant.ofText? b).map fun b => a.compare b
  | string a, timestamp b => (Time.Instant.ofText? a).map fun a => a.compare b
  | _, _ => none

/-- The place of a kind of value in the order of sorting. -/
def rank : Value → Nat
  | bool _ => 0
  | int _ => 1
  | float _ => 1
  | string _ => 2
  | timestamp _ => 3
  | array _ => 4
  | null => 5

/-- The order of sorting. -/
def sortCompare (first second : Value) : Ordering :=
  match first.compare second with
  | some order => order
  | none => Ord.compare first.rank second.rank

mutual

/-- Whether two values are the same: of one kind, with the same content. A NaN is not the same
as itself, and the two zeros are the same. -/
def same : Value → Value → Bool
  | null, null => true
  | bool a, bool b => a == b
  | int a, int b => a == b
  | float a, float b => a == b
  | string a, string b => a == b
  | array a, array b => sameItems a b
  | timestamp a, timestamp b => a == b
  | _, _ => false

def sameItems : List Value → List Value → Bool
  | [], [] => true
  | a :: as, b :: bs => same a b && sameItems as bs
  | _, _ => false

end

end Value

end Keyset
