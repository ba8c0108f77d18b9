import Keyset.Command.Run
import Keyset.Proofs.Text.Base64

/-! # Cursors given in two ways

A cursor is given as the JSON of a record, or as a token, which is such a JSON in Base64. The two
are read apart: the members of a record have to be values, each of which is tried as one kind after
the other (`Keyset.Value.ofJson?_eq_findSome?`), while a token may hold any JSON. A text without
objects below its own gives the same values to both (`Keyset.Value.ofJson?_eq`), so a text is the
JSON of a cursor iff its token stands for the cursor and none of its members holds an object
(`Keyset.Command.readCursor_json_iff`).
-/

namespace Keyset

namespace Json

mutual

/-- Whether a tree holds an object, at any depth. -/
def hasObject : Json → Bool
  | array items => anyHasObject items
  | object _ => true
  | _ => false

def anyHasObject : List Json → Bool
  | [] => false
  | item :: rest => hasObject item || anyHasObject rest

end

end Json

namespace Value

/-- The whole number of 64 bits that a number of a text is, if it is one. -/
def whole? : Json.Number → Option Int64
  | .integer n =>
    if Int64.minValue.toInt ≤ n && n ≤ Int64.maxValue.toInt then some (Int64.ofInt n) else none
  | .real _ => none

/-- The double of a number of a text. -/
def double : Json.Number → Float
  | .integer n => Float.ofInt n
  | .real x => x

/-- The kinds of values as which a tree may be read, in the order in which they are tried. The items
of an array are read by `read`. A timestamp is tried last, after the strings. -/
def kinds (read : Json → Option Value) : List (Json → Option Value) :=
  [fun | .null => some null | _ => none,
    fun | .bool b => some (bool b) | _ => none,
    fun | .number n => (whole? n).map int | _ => none,
    fun | .number n => some (float (double n)) | _ => none,
    fun | .string s => some (string s) | _ => none,
    fun | .array items => (items.mapM read).map array | _ => none,
    fun | .string s => (Time.Instant.ofText? s).map timestamp | _ => none]

theorem ofNumber_eq (n : Json.Number) :
    ofNumber n = ((whole? n).map int).getD (float (double n)) := by
  cases n with
  | real x => rfl
  | integer n =>
      rw [ofNumber, whole?, double]
      split <;> rfl

theorem ofJsons?_eq_mapM (items : List Json) : ofJsons? items = items.mapM ofJson? := by
  induction items with
  | nil => rfl
  | cons item rest ih =>
      rw [ofJsons?, ih, List.mapM_cons]
      rfl

/-- A tree is read as the first kind of value that it can be read as, and so are its items. -/
theorem ofJson?_eq_findSome? (json : Json) :
    ofJson? json = (kinds ofJson?).findSome? fun kind => kind json := by
  cases json with
  | number n =>
      rw [ofJson?, ofNumber_eq]
      cases whole : whole? n <;> simp [kinds, whole]
  | array items =>
      rw [ofJson?, ofJsons?_eq_mapM]
      cases read : items.mapM ofJson? <;> simp [kinds, read]
  | _ => rfl

mutual

/-- A tree that is tried as one kind of value after the other is read as where any JSON may stand,
unless it holds an object. -/
theorem ofJson?_eq : ∀ json : Json,
    ofJson? json = if json.hasObject then none else some (ofAnyJson json)
  | .null => ofJson?_eq_findSome? _
  | .bool _ => ofJson?_eq_findSome? _
  | .string _ => ofJson?_eq_findSome? _
  | .object _ => ofJson?_eq_findSome? _
  | .number n => by
    rw [ofJson?_eq_findSome?, ofAnyJson, ofNumber_eq]
    -- A number that is no whole number of 64 bits passes on to the next kind, the doubles.
    cases whole : whole? n <;> simp [kinds, whole, Json.hasObject]
  | .array items => by
    rw [ofJson?, ofJsons?_eq items, Json.hasObject, ofAnyJson]
    cases Json.anyHasObject items <;> rfl

theorem ofJsons?_eq : ∀ items : List Json,
    ofJsons? items = if Json.anyHasObject items then none else some (ofAnyJsons items)
  | [] => rfl
  | item :: rest => by
    rw [ofJsons?, ofJson?_eq item, ofJsons?_eq rest, Json.anyHasObject, ofAnyJsons]
    cases item.hasObject with
    | true => rfl
    | false => cases Json.anyHasObject rest <;> rfl

end

end Value

namespace Record

/-- The members of a record are read apart, and put into the record in their order. -/
theorem mapM_ofJson? (members : List (String × Json)) :
    (members.mapM fun member =>
        (Value.ofJson? member.2).map fun value => (member.1, value)) =
      if members.any fun member => member.2.hasObject then none
      else some (members.map fun member => (member.1, Value.ofAnyJson member.2)) := by
  induction members with
  | nil => rfl
  | cons member rest ih =>
      rw [List.mapM_cons, ih, Value.ofJson?_eq, List.any_cons, List.map_cons]
      cases member.2.hasObject with
      | true => rfl
      | false => cases rest.any fun member => member.2.hasObject <;> rfl

end Record

section Sources

variable {text : String} {cursor : Cursor}

/-- The cursor of the members of an object, of which the last one counts if several have one
name. -/
def Position.cursorOf (members : List (String × Json)) : Cursor :=
  FieldMap.ofList (members.map fun member => (member.1, Value.ofAnyJson member.2))

theorem Position.decode_encodeText_iff :
    decode (Base64.encodeText text) = .ok cursor ↔
      ∃ members, Json.ofText? text = some (.object members) ∧ cursorOf members = cursor := by
  have plain : ∀ c ∈ (Base64.encodeText text).toList, Text.isBlank c = false := by
    rw [Base64.encodeText, String.toList_ofList]
    exact Base64.not_isBlank_of_mem_encode _
  have trimmed : Text.trim (Base64.encodeText text) = Base64.encodeText text := by
    have bare := Text.trimChars_around (List.forall_mem_nil _) plain (List.forall_mem_nil _)
    rw [List.nil_append, List.append_nil] at bare
    rw [Text.trim, bare, String.ofList_toList]
  rw [decode, trimmed, Base64.decodeText?_encodeText, Option.bind_some]
  cases read : Json.ofText? text with
  | none => simp
  | some json => cases json <;> simp [cursorOf]

theorem Command.readCursor_json_eq_ok_iff :
    readCursor (.json text) = .ok cursor ↔
      ∃ members, Json.ofText? text = some (.object members) ∧
        (∀ member ∈ members, ¬member.2.hasObject) ∧ Position.cursorOf members = cursor := by
  rw [readCursor]
  cases read : Json.ofText? text with
  | none => simp
  | some json =>
      cases json with
      | object members =>
          have made : Record.ofJson? (.object members) =
              if members.any fun member => member.2.hasObject then none
              else some (Position.cursorOf members) := by
            rw [Record.ofJson?, Record.ofJsonWith?, Record.ofMembers?, Record.mapM_ofJson?]
            split <;> rfl
          rw [Option.bind_some, made]
          by_cases held : members.any fun member => member.2.hasObject
          · rw [if_pos held]
            obtain ⟨member, present, holds⟩ := List.any_eq_true.mp held
            constructor
            · exact nofun
            · rintro ⟨others, same, none, -⟩
              cases same
              exact absurd holds (none member present)
          · rw [if_neg held]
            have none : ∀ member ∈ members, ¬member.2.hasObject := fun member present holds =>
              held (List.any_eq_true.mpr ⟨member, present, holds⟩)
            constructor
            · intro done
              exact ⟨members, rfl, none, Except.ok.inj done⟩
            · rintro ⟨others, same, -, rfl⟩
              cases same
              rfl
      | _ => simp [Record.ofJson?, Record.ofJsonWith?]

/-- **A cursor is read alike from its JSON and from its token.** A text is the JSON of a cursor iff
its token stands for that cursor and no member of its object holds an object, at any depth. All
members count, also those that a later one of the same name replaces. -/
theorem Command.readCursor_json_iff :
    readCursor (.json text) = .ok cursor ↔
      Position.decode (Base64.encodeText text) = .ok cursor ∧
        ∃ members, Json.ofText? text = some (.object members) ∧
          ∀ member ∈ members, ¬member.2.hasObject := by
  rw [readCursor_json_eq_ok_iff, Position.decode_encodeText_iff]
  constructor
  · rintro ⟨members, read, none, made⟩
    exact ⟨⟨members, read, made⟩, members, read, none⟩
  · rintro ⟨⟨members, read, made⟩, others, again, none⟩
    have same : members = others := by
      rw [read] at again
      exact Json.object.inj (Option.some.inj again)
    exact ⟨members, read, same ▸ none, made⟩

/-- An object that a later member of the same name replaces is nothing to the token. -/
example :
    Command.readCursor (.json "\x7b\"id\":\x7b\x7d,\"id\":true\x7d") = .error .cursor ∧
      Position.decode (Base64.encodeText "\x7b\"id\":\x7b\x7d,\"id\":true\x7d") =
        .ok (FieldMap.ofList [("id", .bool true)]) := by
  refine ⟨rfl, Position.decode_encodeText_iff.mpr
    ⟨[("id", .object []), ("id", .bool true)], by rfl, ?_⟩⟩
  exact FieldMap.eq_of_members_eq rfl

end Sources

end Keyset
