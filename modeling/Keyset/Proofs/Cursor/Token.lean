import Keyset.Proofs.Position

/-! # Cursors from tokens

A condition reads its cursor at the fields of the order and asks whether it has an id. So the
cursor may be restricted to these fields (`Keyset.CursorCondition.build_restrict`), as it is in a
token, without a change of the condition (`Keyset.afterCursor_restrict`). What comes back from a
token gives the condition of the record that went into it, or fails as the record does
(`Keyset.CursorCondition.build_of_token`).
-/

namespace Keyset

theorem Record.value_restrict (record : Record) {names : List String} {name : String}
    (listed : name ∈ names) : Record.value (record.restrict names) name = record.value name := by
  rw [Record.value, Record.value, FieldMap.get?_restrict, if_pos listed]

namespace CursorCondition

/-- The levels of an order read the cursor at their fields only. -/
theorem levels_congr (condition : CursorCondition) (direction : PageDirection) {cursor : Cursor}
    {order : Order} (values : ∀ entry ∈ order,
      cursor.value entry.field = condition.cursor.value entry.field) :
    levels { condition with cursor := cursor } direction order =
      condition.levels direction order := by
  induction order with
  | nil => rfl
  | cons entry further ih =>
      obtain ⟨here, later⟩ := List.forall_mem_cons.mp values
      cases further with
      | nil =>
          rw [levels, levels, here]
          rfl
      | cons second rest =>
          simp only [levels, here, ih later]
          rfl

/-- The condition does not change when its cursor is restricted to fields that include the
levels of the order and the ids. -/
theorem build_restrict (condition : CursorCondition) (direction : PageDirection)
    {names : List String} (levelsListed : ∀ entry ∈ condition.order, entry.field ∈ names)
    (idListed : condition.idField ∈ names) :
    build { condition with cursor := condition.cursor.restrict names } direction =
      condition.build direction := by
  have contains : (condition.cursor.restrict names).contains condition.idField =
      condition.cursor.contains condition.idField := by
    rw [FieldMap.contains, FieldMap.get?_restrict, if_pos idListed, FieldMap.contains]
  have values : ∀ entry ∈ condition.order,
      Record.value (condition.cursor.restrict names) entry.field =
        condition.cursor.value entry.field := by
    intro entry member
    exact Record.value_restrict condition.cursor (levelsListed entry member)
  have sameLevels := condition.levels_congr direction values
  rw [build, build, defect?, defect?, contains, sameLevels]

/-- **A token carries what a condition needs.** If the fields of a token include the levels of the
order and the ids, the token of a record gives the record's own condition, or its defect. A field
that the record lacks is lacking in the cursor, too. -/
theorem build_of_token (condition : CursorCondition) (direction : PageDirection)
    {names : List String} (levelsListed : ∀ entry ∈ condition.order, entry.field ∈ names)
    (idListed : condition.idField ∈ names)
    (plain : ∀ name ∈ names, ∀ value, condition.cursor.get? name = some value →
      value.Plain ∧ value.Fits Record.listDepth) :
    ∃ cursor,
      Position.decode (Position.encode (.named names) condition.cursor) = .ok cursor ∧
        (∀ name ∈ names, cursor.get? name = condition.cursor.get? name) ∧
        build { condition with cursor := cursor } direction = condition.build direction := by
  refine ⟨condition.cursor.restrict names, ?_, ?_, ?_⟩
  · apply Position.decode_encode_named
    intro name listed value found
    obtain ⟨isPlain, fits⟩ := plain name listed value found
    exact ⟨fits, value.untimed_of_plain isPlain⟩
  · intro name listed
    rw [FieldMap.get?_restrict, if_pos listed]
  · exact condition.build_restrict direction levelsListed idListed

/-- The record lacks an age, which counts as null, its name has a quote, and the double in it goes
into no token. -/
theorem build_of_token_lacking :
    let order : Order := [⟨"age", .desc⟩, ⟨"name", .asc⟩, ⟨"id", .asc⟩]
    let record : Record := FieldMap.ofList [("id", .int Int64.minValue), ("name", .string "\"☃"),
      ("tags", .array [.array [.null, .bool true]]), ("score", .float 0.5)]
    let names := ["name", "tags", "age", "id", "name"]
    let condition : CursorCondition := ⟨order, record, "id", false, .reject⟩
    (∀ entry ∈ order, entry.field ∈ names) ∧ "id" ∈ names ∧
      (∀ name ∈ names, ∀ value, record.get? name = some value →
        value.Plain ∧ value.Fits Record.listDepth) ∧
      ∃ cursor, Position.decode (Position.encode (.named names) record) = .ok cursor ∧
        cursor.get? "age" = none ∧
        build { condition with cursor := cursor } .forward = .ok
          (.and [.compare "age" .lte .null, .or [.compare "age" .lt .null,
            .and [.compare "name" .gte (.string "\"☃"), .or [.compare "name" .gt (.string "\"☃"),
              .compare "id" .gt (.int Int64.minValue)]]]]) := by
  intro order record names condition
  have levelsListed : ∀ entry ∈ order, entry.field ∈ names := by decide
  have idListed : "id" ∈ names := by decide
  have plain : ∀ name ∈ names, ∀ value, record.get? name = some value →
      value.Plain ∧ value.Fits Record.listDepth := by
    intro name listed value found
    have member := FieldMap.mem_of_mem_ofList (FieldMap.mem_of_get? found)
    simp only [List.mem_cons, Prod.mk.injEq, List.not_mem_nil, or_false] at member
    rcases member with ⟨-, rfl⟩ | ⟨-, rfl⟩ | ⟨-, rfl⟩ | ⟨rfl, -⟩
    · exact ⟨trivial, trivial⟩
    · exact ⟨trivial, trivial⟩
    · exact ⟨⟨⟨trivial, trivial, trivial⟩, trivial⟩, ⟨trivial, trivial, trivial⟩, trivial⟩
    · exact absurd listed (by decide)
  obtain ⟨cursor, decoded, same, built⟩ :=
    condition.build_of_token .forward levelsListed idListed plain
  refine ⟨levelsListed, idListed, plain, cursor, decoded, ?_, ?_⟩
  · exact (same "age" (by decide)).trans rfl
  · exact built.trans rfl

end CursorCondition

theorem afterCursor_restrict {order : Order} (cursor : Cursor) {idField : String}
    (inclusive : Bool) (ordered : Order.hasField order idField) :
    afterCursor order (cursor.restrict order.fields) idField inclusive =
      afterCursor order cursor idField inclusive := by
  have listed : ∀ entry ∈ order, entry.field ∈ Order.fields order := fun entry member =>
    List.mem_map.mpr ⟨entry, member, rfl⟩
  obtain ⟨entry, inOrder, isId⟩ := List.any_eq_true.mp ordered
  have idListed : idField ∈ Order.fields order := by
    have field := listed entry inOrder
    rwa [of_decide_eq_true isId] at field
  have same := CursorCondition.build_restrict
    (CursorCondition.mk order cursor idField inclusive .unconstrained) .forward listed idListed
  rw [afterCursor, afterCursor, pageCondition, pageCondition, same]

end Keyset
