import Keyset.FieldMap
import Keyset.Json.Reader
import Keyset.Value.Wire

/-! # Records

A record maps field names to values. A field that it lacks reads as null
(`Keyset.Record.value`). Records are written as JSON objects, with the letter `Z` for the offset
of timestamps, and read from JSON objects of values.
-/

namespace Keyset

/-- The values of an item by field name. -/
abbrev Record := FieldMap Value

namespace Record

/-- The value of a field, null if the record lacks it. -/
def value (record : Record) (field : String) : Value :=
  (record.get? field).getD .null

/-- The members of a record as JSON. -/
def membersJson (members : List (String × Value)) : List (String × Json) :=
  members.map fun member => (member.1, member.2.toJson .letter)

/-- The JSON object of a record. -/
def toJson (record : Record) : Json :=
  .object (membersJson record.members)

/-- The record of the members of a JSON object, its values being read by `read`. Every member
has to be a value, also one that a later member of the same name replaces. -/
def ofMembers? (read : Json → Option Value) (members : List (String × Json)) : Option Record :=
  (members.mapM fun member => (read member.2).map fun value => (member.1, value)).map
    FieldMap.ofList

/-- The record of a JSON object, its values being read by `read`. -/
def ofJsonWith? (read : Json → Option Value) : Json → Option Record
  | .object members => ofMembers? read members
  | _ => none

/-- The record of a JSON object of values. -/
def ofJson? (json : Json) : Option Record :=
  ofJsonWith? Value.ofJson? json

/-- The records of a JSON array of objects. -/
def listOfJson? : Json → Option (List Record)
  | .array items => items.mapM ofJson?
  | _ => none

end Record

end Keyset
