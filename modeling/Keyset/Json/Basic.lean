import Keyset.FieldMap

/-! # JSON trees

A JSON tree as it stands in a text: the members of an object keep their order, and a name may
occur twice. `Keyset.Json.canonical` is the tree with the members of every object in the order
of their names, where the last of several members with one name counts.
-/

namespace Keyset

/-- A number: a whole number of 64 bits with or without a sign, or a finite double. -/
inductive Json.Number
  | integer (n : Int)
  | real (x : Float)

/-- A JSON tree. -/
inductive Json
  | null
  | bool (b : Bool)
  | number (n : Json.Number)
  | string (s : String)
  | array (items : List Json)
  | object (members : List (String × Json))

namespace Json

instance : Inhabited Json := ⟨null⟩

mutual

/-- The tree with the members of every object in the order of their names, the last of
several members with one name being kept. -/
def canonical : Json → Json
  | array items => array (canonicalItems items)
  | object members => object (FieldMap.ofList (canonicalMembers members)).members
  | scalar => scalar

def canonicalItems : List Json → List Json
  | [] => []
  | item :: rest => canonical item :: canonicalItems rest

def canonicalMembers : List (String × Json) → List (String × Json)
  | [] => []
  | (name, value) :: rest => (name, canonical value) :: canonicalMembers rest

end

/-- The member of that name, the last one if there are several. -/
def member? (members : List (String × Json)) (name : String) : Option Json :=
  (members.reverse.find? fun member => member.1 == name).map Prod.snd

end Json

end Keyset
