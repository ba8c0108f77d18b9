import Keyset.Base64
import Keyset.Cursor

/-! # Position tokens

A position in a list of records is handed out as a token: the JSON of a record, or of some of
its fields, in Base64. Reading a token (`Keyset.Position.decode`) gives a cursor; timestamps come
back as their texts, and objects as theirs.
-/

namespace Keyset

/-- Which fields of a record go into its token. -/
inductive PositionFields
  /-- All of them. -/
  | all
  /-- The named ones that the record has. -/
  | named (fields : List String)

/-- The part of a record that goes into its token. -/
def PositionFields.part (fields : PositionFields) (record : Record) : Record :=
  match fields with
  | all => record
  | named fields => record.restrict fields

/-- Why a token stands for no cursor. -/
inductive PositionError
  /-- The token is not Base64 of a JSON text. -/
  | unreadable
  /-- The JSON is not an object. -/
  | notObject (text : String)
deriving DecidableEq

/-- The sentence about the error. -/
def PositionError.message : PositionError → String
  | unreadable => "Invalid position token"
  | notObject text => "Invalid position token: expected a JSON object, got " ++ text

namespace Position

/-- The token of a record. -/
def encode (fields : PositionFields) (record : Record) : String :=
  Base64.encodeText (fields.part record).toJson.text

/-- The cursor of a token, blanks at its ends being passed over. -/
def decode (token : String) : Except PositionError Cursor :=
  match (Base64.decodeText? (Text.trim token)).bind Json.ofText? with
  | none => .error .unreadable
  | some (.object members) =>
    .ok (FieldMap.ofList (members.map fun member => (member.1, Value.ofAnyJson member.2)))
  | some json => .error (.notObject json.canonical.text)

end Position

end Keyset
