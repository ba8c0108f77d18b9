import Keyset.Position
import Keyset.Proofs.FieldMap
import Keyset.Proofs.Text.Base64
import Keyset.Proofs.Value.Wire

/-! # Reading tokens back

The cursor of a token is the part of the record that went into it, with timestamps as their texts
(`Keyset.Position.decode_around_encode`). Where the named fields hold no timestamps, it is the
record restricted to them (`Keyset.Position.decode_encode_named`). Blanks around a token do not
count, whichever encoder made it (`Keyset.Position.decode_between_blanks`).
-/

namespace Keyset

/-- How deep lists may be nested in a record that goes into a token: the object of the record
takes one level of its own. -/
abbrev Record.listDepth : Nat := 126

theorem Record.fits_toJson {record : Record}
    (fits : ∀ member ∈ record.members, member.2.Fits Record.listDepth) :
    record.toJson.Fits Json.depthLimit := by
  apply Json.fitsMembers_iff.mpr
  intro json written
  obtain ⟨member, inRecord, rfl⟩ := List.mem_map.mp written
  exact Value.fits_toJson .letter member.2 _ (fits member inRecord)

namespace Position

variable {fields : PositionFields} {record : Record}

theorem ofList_membersJson (fits : ∀ member ∈ record.members, member.2.Fits Record.listDepth) :
    FieldMap.ofList ((Record.membersJson record.members).map fun member =>
      (member.1, Value.ofAnyJson member.2)) = record.mapValues Value.untimed := by
  have members : ((Record.membersJson record.members).map fun member =>
      (member.1, Value.ofAnyJson member.2)) = (record.mapValues Value.untimed).members := by
    rw [Record.membersJson, List.map_map]
    apply List.map_congr_left
    intro member inRecord
    have value := Value.ofAnyJson_toJson member.2 _ (fits member inRecord)
    exact congrArg (Prod.mk member.1) value
  rw [members, FieldMap.ofList_members]

/-- **A token reads back**, also with blanks around it. -/
theorem decode_around_encode {front back : List Char}
    (fits : ∀ member ∈ (fields.part record).members, member.2.Fits Record.listDepth)
    (blankFront : ∀ c ∈ front, Text.isBlank c) (blankBack : ∀ c ∈ back, Text.isBlank c) :
    decode (String.ofList (front ++ (encode fields record).toList ++ back)) =
      .ok ((fields.part record).mapValues Value.untimed) := by
  have plain : ∀ c ∈ (encode fields record).toList, Text.isBlank c = false := by
    rw [encode, Base64.encodeText, String.toList_ofList]
    exact Base64.not_isBlank_of_mem_encode _
  have trimmed : Text.trim (String.ofList (front ++ (encode fields record).toList ++ back)) =
      encode fields record := by
    rw [Text.trim, String.toList_ofList, Text.trimChars_around blankFront plain blankBack,
      String.ofList_toList]
  have read : (Base64.decodeText? (encode fields record)).bind Json.ofText? =
      some (.object (Record.membersJson (fields.part record).members)) := by
    rw [encode, Base64.decodeText?_encodeText]
    exact Json.ofText?_text (Record.fits_toJson fits)
  rw [decode, trimmed, read]
  exact congrArg Except.ok (ofList_membersJson fits)

theorem decode_encode
    (fits : ∀ member ∈ (fields.part record).members, member.2.Fits Record.listDepth) :
    decode (encode fields record) = .ok ((fields.part record).mapValues Value.untimed) := by
  have bare := decode_around_encode fits (List.forall_mem_nil _) (List.forall_mem_nil _)
  rwa [List.nil_append, List.append_nil, String.ofList_toList] at bare

/-- Without timestamps in the named fields, the cursor is the record restricted to them. -/
theorem decode_encode_named {names : List String}
    (fits : ∀ name ∈ names, ∀ value, record.get? name = some value →
      value.Fits Record.listDepth ∧ value.untimed = value) :
    decode (encode (.named names) record) = .ok (record.restrict names) := by
  have listed : ∀ name value, (record.restrict names).get? name = some value →
      value.Fits Record.listDepth ∧ value.untimed = value := by
    intro name value found
    rw [FieldMap.get?_restrict] at found
    split at found
    next named => exact fits name named value found
    next => contradiction
  have unchanged : (record.restrict names).mapValues Value.untimed = record.restrict names := by
    apply FieldMap.eq_of_get?_eq
    intro name
    rw [FieldMap.get?_mapValues]
    cases found : (record.restrict names).get? name with
    | none => rfl
    | some value => rw [Option.map_some, (listed name value found).2]
  have partFits : ∀ member ∈ (record.restrict names).members, member.2.Fits Record.listDepth :=
    fun member inPart => (listed member.1 member.2 (FieldMap.get?_of_mem inPart)).1
  exact (@decode_encode (.named names) record partFits).trans (congrArg Except.ok unchanged)

/-- **Tokens read back.** A record without doubles, and with lists nested no deeper than a token
may hold them, comes back from its token as it was, with every timestamp as its text; from a token
of some of its fields come back those fields and no others. Blanks around the token do not count. -/
theorem decode_between_blanks {front back : String}
    (fits : ∀ member ∈ record.members, member.2.Fits Record.listDepth)
    (blankFront : ∀ c ∈ front.toList, Text.isBlank c)
    (blankBack : ∀ c ∈ back.toList, Text.isBlank c) :
    decode (front ++ encode .all record ++ back) = .ok (record.mapValues Value.untimed) ∧
      ∀ names : List String, ∃ cursor,
        decode (front ++ encode (.named names) record ++ back) = .ok cursor ∧
          ∀ name, cursor.get? name =
            if name ∈ names then (record.get? name).map Value.untimed else none := by
  have around : ∀ token : String,
      front ++ token ++ back = String.ofList (front.toList ++ token.toList ++ back.toList) := by
    intro token
    rw [← String.toList_append, ← String.toList_append, String.ofList_toList]
  constructor
  · rw [around]
    exact @decode_around_encode .all record _ _ fits blankFront blankBack
  · intro names
    have partFits : ∀ member ∈ (record.restrict names).members,
        member.2.Fits Record.listDepth := by
      intro member inPart
      have found := FieldMap.get?_of_mem inPart
      rw [FieldMap.get?_restrict] at found
      split at found
      next => exact fits _ (FieldMap.mem_of_get? found)
      next => contradiction
    refine ⟨(record.restrict names).mapValues Value.untimed, ?_, fun name => ?_⟩
    · rw [around]
      exact @decode_around_encode (.named names) record _ _ partFits blankFront blankBack
    · rw [FieldMap.get?_mapValues, FieldMap.get?_restrict]
      split <;> rfl

/-- A quote and a control character in a string, the least whole number, a list in a list with a
timestamp inside, and a name that is asked for twice beside one that the record lacks. -/
theorem decode_between_blanks_nested :
    let noon : Time.Instant := ⟨1704196800, 500000000, by decide⟩
    let record : Record := FieldMap.ofList [("id", .int Int64.minValue), ("", .string "a\"\t☃"),
      ("at", .array [.null, .array [.bool true, .timestamp noon]])]
    let names := ["at", "id", "at", "none"]
    (∀ member ∈ record.members, member.2.Fits Record.listDepth) ∧
      (∀ c ∈ "\n".toList, Text.isBlank c) ∧ (∀ c ∈ "\u3000 ".toList, Text.isBlank c) ∧
      decode ("\n" ++ encode .all record ++ "\u3000 ") = .ok (record.mapValues Value.untimed) ∧
      ∃ cursor, decode ("\n" ++ encode (.named names) record ++ "\u3000 ") = .ok cursor ∧
        cursor.get? "at" = some (.array [.null, .array [.bool true, .string (noon.text .letter)]]) ∧
        cursor.get? "" = none := by
  intro noon record names
  have fits : ∀ member ∈ record.members, member.2.Fits Record.listDepth := by
    intro member present
    have listed := FieldMap.mem_of_mem_ofList present
    simp only [List.mem_cons, List.not_mem_nil, or_false] at listed
    rcases listed with rfl | rfl | rfl
    · trivial
    · trivial
    · exact ⟨trivial, ⟨trivial, trivial, trivial⟩, trivial⟩
  have blankFront : ∀ c ∈ "\n".toList, Text.isBlank c := by
    intro c member
    obtain rfl : c = '\n' := List.mem_singleton.mp member
    rfl
  have blankBack : ∀ c ∈ "\u3000 ".toList, Text.isBlank c := by
    intro c member
    rcases List.mem_pair.mp member with rfl | rfl
    · rfl
    · rfl
  obtain ⟨whole, parts⟩ := decode_between_blanks fits blankFront blankBack
  obtain ⟨cursor, decoded, found⟩ := parts names
  refine ⟨fits, blankFront, blankBack, whole, cursor, decoded, ?_, ?_⟩
  · rw [found]
    simp [names, record, FieldMap.ofList, FieldMap.get?_insert, Value.untimed, Value.untimedItems]
  · rw [found]
    simp [names]

end Position

end Keyset
