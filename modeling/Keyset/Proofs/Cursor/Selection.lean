import Mathlib.Data.List.Nodup
import Keyset.Page
import Keyset.Proofs.Cursor.Levels
import Keyset.Proofs.Sorting.Order

/-! # The records on one side of a cursor

Where the records have values of one kind at every level, the condition of a cursor and sorting
agree: a record satisfies the condition iff the sort keys of the page direction put it behind the
cursor (`Keyset.eval_pageCondition_exclusive`). So the conditions cut a sorted list of records
before and after the cursor (`Keyset.select_around_cursor`).
-/

namespace Keyset

/-- Every level of the order has a value of its kind in the record. -/
def Record.Conforms (schema : String → Value.Kind) (order : Order) (record : Record) : Prop :=
  ∀ entry ∈ order, (record.value entry.field).kind? = some (schema entry.field)

namespace PageDirection

/-- The sort key of a level in a page direction. -/
def key (direction : PageDirection) (entry : OrderEntry) : SortKey :=
  match direction with
  | forward => SortKey.ofEntry entry
  | backward => SortKey.ofEntry ⟨entry.field, entry.direction.reverse⟩

theorem keys_eq_map (direction : PageDirection) (order : Order) :
    direction.keys order = order.map direction.key := by
  cases direction with
  | forward => rfl
  | backward => exact List.map_map

theorem keys_cons (direction : PageDirection) (entry : OrderEntry) (further : Order) :
    direction.keys (entry :: further) = direction.key entry :: direction.keys further := by
  simp only [keys_eq_map, List.map_cons]

theorem key_field (direction : PageDirection) (entry : OrderEntry) :
    (direction.key entry).field = entry.field := by
  cases direction <;> rfl

end PageDirection

namespace Sorting

variable {schema : String → Value.Kind} {order : Order} {first second : Record}

theorem placed_of_conforms (direction : PageDirection) (firstConforms : first.Conforms schema order)
    (secondConforms : second.Conforms schema order) :
    Placed (direction.keys order) first second := by
  intro key member
  rw [direction.keys_eq_map] at member
  obtain ⟨entry, inOrder, rfl⟩ := List.mem_map.mp member
  rw [direction.key_field]
  exact Value.mixes_of_kind (firstConforms entry inOrder) (secondConforms entry inOrder)

/-- Values of one kind tie in a direction only if they are equal. -/
theorem eq_of_compareValues_eq {kind : Value.Kind} {left right : Value}
    (leftKind : left.kind? = some kind) (rightKind : right.kind? = some kind)
    {level : Direction} (tie : compareValues level left right = .eq) : left = right := by
  cases level with
  | asc => exact Value.eq_of_sortCompare_eq leftKind rightKind tie
  | desc => exact (Value.eq_of_sortCompare_eq rightKind leftKind tie).symm

/-- Records tie only with equal values at every level. -/
theorem value_eq_of_tie (firstConforms : first.Conforms schema order)
    (secondConforms : second.Conforms schema order)
    (tie : compareRecords order.keys first second = .eq) :
    ∀ entry ∈ order, first.value entry.field = second.value entry.field := by
  induction order with
  | nil => exact fun _ absent => absurd absent List.not_mem_nil
  | cons entry further ih =>
      obtain ⟨firstKind, firstFurther⟩ := List.forall_mem_cons.mp firstConforms
      obtain ⟨secondKind, secondFurther⟩ := List.forall_mem_cons.mp secondConforms
      obtain ⟨here, later⟩ := Ordering.then_eq_eq.mp tie
      exact List.forall_mem_cons.mpr ⟨eq_of_compareValues_eq firstKind secondKind here,
        ih firstFurther secondFurther later⟩

theorem compareRecords_self {keys : List SortKey} {record : Record}
    (placed : Placed keys record record) : compareRecords keys record record = .eq := by
  rw [compareRecords_eq_places placed]
  exact Std.ReflCmp.compare_self

end Sorting

namespace CursorCondition

open Sorting

variable {schema : String → Value.Kind} (condition : CursorCondition) (direction : PageDirection)
  {record : Record} {entry : OrderEntry}

/-- At one level, lying past the cursor and tying with it are what sorting says about them. -/
theorem isPast_ties_eq {kind : Value.Kind}
    (cursorKind : (condition.cursor.value entry.field).kind? = some kind)
    (recordKind : (record.value entry.field).kind? = some kind) :
    condition.isPast direction record entry =
        (compareValues (direction.key entry).direction (condition.cursor.value entry.field)
          (record.value entry.field) == .lt) ∧
      condition.ties record entry =
        (compareValues (direction.key entry).direction (condition.cursor.value entry.field)
          (record.value entry.field) == .eq) := by
  have swapped := Value.sortCompare_swap (Value.mixes_of_kind recordKind cursorKind)
  rw [isPast, ties, Value.compare_of_kind recordKind cursorKind]
  obtain ⟨field, level⟩ := entry
  cases direction <;> cases level <;>
    simp only [PageDirection.past, PageDirection.key, SortKey.ofEntry, Direction.reverse,
      compareValues, swapped] <;>
    cases (record.value field).sortCompare (condition.cursor.value field) <;> exact ⟨rfl, rfl⟩

/-- Without the cursor, the walk over the levels passes the records behind it. -/
theorem passes_eq_isBefore (exclusive : condition.inclusive = false) {order : Order}
    (cursorConforms : condition.cursor.Conforms schema order)
    (recordConforms : record.Conforms schema order)
    (identified : record.value condition.idField = condition.cursor.value condition.idField →
      record = condition.cursor)
    (ordered : Order.hasField order condition.idField) :
    condition.passes direction record order =
      isBefore (direction.keys order) condition.cursor record := by
  induction order with
  | nil => contradiction
  | cons entry further ih =>
      obtain ⟨cursorKind, cursorFurther⟩ := List.forall_mem_cons.mp cursorConforms
      obtain ⟨recordKind, recordFurther⟩ := List.forall_mem_cons.mp recordConforms
      obtain ⟨past, tie⟩ := condition.isPast_ties_eq direction cursorKind recordKind
      rw [passes, past, tie, isBefore, direction.keys_cons, compareRecords, direction.key_field]
      cases level : compareValues (direction.key entry).direction
          (condition.cursor.value entry.field) (record.value entry.field) with
      | lt => rfl
      | gt => rfl
      | eq =>
          by_cases isId : entry.field = condition.idField
          · have same : record = condition.cursor :=
              identified (isId ▸ (eq_of_compareValues_eq cursorKind recordKind level).symm)
            have tied := compareRecords_self
              (placed_of_conforms direction cursorFurther cursorFurther)
            simp only [isFinal, exclusive, isId, same, tied]
            rfl
          · have later : Order.hasField further condition.idField := by
              simpa [Order.hasField, isId] using ordered
            rw [ih cursorFurther recordFurther later]
            simp only [isFinal, isId]
            cases compared : compareRecords (direction.keys further) condition.cursor record <;>
              simp [isBefore, compared]

/-- With the cursor, the walk over the levels passes all but the records before it. -/
theorem passes_eq_not_isBefore (inclusive : condition.inclusive = true) {order : Order}
    (cursorConforms : condition.cursor.Conforms schema order)
    (recordConforms : record.Conforms schema order) :
    condition.passes direction record order =
      !isBefore (direction.keys order) record condition.cursor := by
  have atMost : condition.passes direction record order =
      (compareRecords (direction.keys order) condition.cursor record).isLE := by
    induction order with
    | nil => rw [direction.keys_eq_map]; rfl
    | cons entry further ih =>
        obtain ⟨cursorKind, cursorFurther⟩ := List.forall_mem_cons.mp cursorConforms
        obtain ⟨recordKind, recordFurther⟩ := List.forall_mem_cons.mp recordConforms
        obtain ⟨past, tie⟩ := condition.isPast_ties_eq direction cursorKind recordKind
        rw [passes, past, tie, ih cursorFurther recordFurther, direction.keys_cons, compareRecords,
          direction.key_field]
        simp only [isFinal, inclusive]
        cases compareValues (direction.key entry).direction (condition.cursor.value entry.field)
          (record.value entry.field) <;> rfl
  rw [atMost, Bool.eq_iff_iff, Bool.not_eq_true',
    not_isBefore_iff (placed_of_conforms direction cursorConforms recordConforms)]

end CursorCondition

open Sorting

theorem contains_of_conforms {schema : String → Value.Kind} {order : Order} {record : Record}
    {idField : String} (ordered : Order.hasField order idField)
    (conforms : record.Conforms schema order) : record.contains idField := by
  obtain ⟨entry, inOrder, isId⟩ := List.any_eq_true.mp ordered
  have hasKind := conforms entry inOrder
  rw [of_decide_eq_true isId] at hasKind
  cases found : record.get? idField with
  | some value => simp only [FieldMap.contains, found, Option.isSome_some]
  | none => simp [Record.value, found, Value.kind?] at hasKind

section Selection

variable {schema : String → Value.Kind} {order : Order} {idField : String}
  (named : idField ≠ "") (ordered : Order.hasField order idField) (direction : PageDirection)
  {cursor record : Record}

include named ordered

theorem eval_pageCondition (inclusive : Bool) (cursorConforms : cursor.Conforms schema order) :
    (pageCondition direction order cursor idField inclusive).eval record =
      .ok ((CursorCondition.mk order cursor idField inclusive .unconstrained).passes direction
        record order) := by
  rw [pageCondition, CursorCondition.build_of_usable _ _ named ordered
    (contains_of_conforms ordered cursorConforms)]
  exact CursorCondition.eval_levels _ _ _ _

/-- Without the cursor, the condition of a page direction selects the records behind it. -/
theorem eval_pageCondition_exclusive (cursorConforms : cursor.Conforms schema order)
    (recordConforms : record.Conforms schema order)
    (identified : record.value idField = cursor.value idField → record = cursor) :
    (pageCondition direction order cursor idField false).eval record =
      .ok (isBefore (direction.keys order) cursor record) := by
  rw [eval_pageCondition named ordered direction false cursorConforms,
    CursorCondition.passes_eq_isBefore _ direction rfl cursorConforms recordConforms identified
      ordered]

/-- With the cursor, it selects all but the records before it. -/
theorem eval_pageCondition_inclusive (cursorConforms : cursor.Conforms schema order)
    (recordConforms : record.Conforms schema order) :
    (pageCondition direction order cursor idField true).eval record =
      .ok (!isBefore (direction.keys order) record cursor) := by
  rw [eval_pageCondition named ordered direction true cursorConforms,
    CursorCondition.passes_eq_not_isBefore _ direction rfl cursorConforms recordConforms]

end Selection

/-! ## Cutting a sorted list -/

namespace Sorting

/-- Comparing in the other page direction is comparing the other way round. -/
theorem compareRecords_backward (order : Order) (first second : Record) :
    compareRecords (PageDirection.backward.keys order) first second =
      compareRecords order.keys second first := by
  induction order with
  | nil => rfl
  | cons entry further ih =>
      have forward : Order.keys (entry :: further) =
          PageDirection.forward.key entry :: Order.keys further := rfl
      rw [PageDirection.keys_cons, forward, compareRecords, compareRecords, ih]
      obtain ⟨field, level⟩ := entry
      cases level <;> rfl

theorem isBefore_backward (order : Order) (first second : Record) :
    isBefore (PageDirection.backward.keys order) first second =
      isBefore order.keys second first := by
  rw [isBefore, compareRecords_backward, isBefore]

variable {keys : List SortKey} {before after : List Record} {cursor : Record}

/-- A strictly increasing list is cut by comparing its records with one of them. -/
theorem filter_around (placed : AllPlaced keys (before ++ cursor :: after))
    (increasing : (before ++ cursor :: after).Pairwise fun earlier later =>
      isBefore keys earlier later = true) :
    (before ++ cursor :: after).filter (isBefore keys cursor ·) = after ∧
      (before ++ cursor :: after).filter (isBefore keys · cursor) = before ∧
      (before ++ cursor :: after).filter (!isBefore keys · cursor) = cursor :: after ∧
      (before ++ cursor :: after).filter (!isBefore keys cursor ·) = before ++ [cursor] := by
  obtain ⟨-, tailIncreasing, beforeAll⟩ := List.pairwise_append.mp increasing
  have afterCursor : ∀ record ∈ after, isBefore keys cursor record = true :=
    (List.pairwise_cons.mp tailIncreasing).1
  have beforeCursor : ∀ record ∈ before, isBefore keys record cursor = true :=
    fun record member => beforeAll record member cursor List.mem_cons_self
  have notBefore : ∀ record ∈ before, isBefore keys cursor record = false := fun record member =>
    not_isBefore_of_isBefore (placed record (by simp [member]) cursor (by simp))
      (beforeCursor record member)
  have notAfter : ∀ record ∈ after, isBefore keys record cursor = false := fun record member =>
    not_isBefore_of_isBefore (placed cursor (by simp) record (by simp [member]))
      (afterCursor record member)
  have notSelf : isBefore keys cursor cursor = false := by
    rw [isBefore, compareRecords_self (placed cursor (by simp) cursor (by simp))]
    rfl
  simp only [List.filter_append, List.filter_cons, notSelf, Bool.not_false, ↓reduceIte,
    Bool.false_eq_true]
  refine ⟨?_, ?_, ?_, ?_⟩
  · rw [List.filter_eq_nil_iff.mpr (by simpa using notBefore),
      List.filter_eq_self.mpr afterCursor, List.nil_append]
  · rw [List.filter_eq_self.mpr beforeCursor,
      List.filter_eq_nil_iff.mpr (by simpa using notAfter), List.append_nil]
  · rw [List.filter_eq_nil_iff.mpr (by simpa using beforeCursor),
      List.filter_eq_self.mpr (by simpa using notAfter), List.nil_append]
  · rw [List.filter_eq_self.mpr (by simpa using notBefore),
      List.filter_eq_nil_iff.mpr (by simpa using afterCursor)]

end Sorting

/-- Records that can be paged through: every level has values of one kind, and no id occurs
twice. -/
structure Pageable (schema : String → Value.Kind) (order : Order) (idField : String)
    (records : List Record) : Prop where
  conforms : ∀ record ∈ records, record.Conforms schema order
  distinct : (records.map fun record => record.value idField).Nodup

namespace Pageable

variable {schema : String → Value.Kind} {order : Order} {idField : String}
  {records others : List Record}

theorem perm (pageable : Pageable schema order idField records) (same : others.Perm records) :
    Pageable schema order idField others where
  conforms record member := pageable.conforms record (same.subset member)
  distinct := (same.map _).nodup_iff.mpr pageable.distinct

theorem identified (pageable : Pageable schema order idField records) {first second : Record}
    (inFirst : first ∈ records) (inSecond : second ∈ records)
    (ids : first.value idField = second.value idField) : first = second :=
  List.inj_on_of_nodup_map pageable.distinct inFirst inSecond ids

theorem ranked (pageable : Pageable schema order idField records)
    (ordered : Order.hasField order idField) : Sorting.Ranked order.keys records where
  placed first inFirst second inSecond :=
    Sorting.placed_of_conforms .forward (pageable.conforms first inFirst)
      (pageable.conforms second inSecond)
  untied first inFirst second inSecond tie := by
    obtain ⟨entry, inOrder, isId⟩ := List.any_eq_true.mp ordered
    have same := Sorting.value_eq_of_tie (pageable.conforms first inFirst)
      (pageable.conforms second inSecond) tie entry inOrder
    rw [of_decide_eq_true isId] at same
    exact pageable.identified inFirst inSecond same
  distinct := List.Nodup.of_map _ pageable.distinct

end Pageable

section Cut

variable {schema : String → Value.Kind} {order : Order} {idField : String}

theorem select_around {before after : List Record} {cursor : Record} (named : idField ≠ "")
    (ordered : Order.hasField order idField)
    (pageable : Pageable schema order idField (before ++ cursor :: after))
    (increasing : (before ++ cursor :: after).Pairwise fun earlier later =>
      Sorting.isBefore order.keys earlier later = true) :
    (afterCursor order cursor idField false).select (before ++ cursor :: after) = .ok after ∧
      (beforeCursor order cursor idField false).select (before ++ cursor :: after) = .ok before ∧
      (afterCursor order cursor idField true).select (before ++ cursor :: after) =
        .ok (cursor :: after) ∧
      (beforeCursor order cursor idField true).select (before ++ cursor :: after) =
        .ok (before ++ [cursor]) := by
  have cursorMember : cursor ∈ before ++ cursor :: after := by simp
  have cursorConforms := pageable.conforms cursor cursorMember
  have exclusive := fun direction record (member : record ∈ before ++ cursor :: after) =>
    eval_pageCondition_exclusive named ordered direction cursorConforms
      (pageable.conforms record member) (pageable.identified member cursorMember)
  have inclusive := fun direction record (member : record ∈ before ++ cursor :: after) =>
    eval_pageCondition_inclusive named ordered direction cursorConforms
      (pageable.conforms record member)
  have backward := Sorting.isBefore_backward order
  obtain ⟨behind, ahead, fromHere, upToHere⟩ :=
    Sorting.filter_around (pageable.ranked ordered).placed increasing
  refine ⟨?_, ?_, ?_, ?_⟩
  · exact (Predicate.select_eq_filter _ (exclusive .forward)).trans (congrArg _ behind)
  · refine (Predicate.select_eq_filter _ (exclusive .backward)).trans (congrArg _ ?_)
    exact (congrArg (List.filter · _) (funext (backward cursor))).trans ahead
  · exact (Predicate.select_eq_filter _ (inclusive .forward)).trans (congrArg _ fromHere)
  · refine (Predicate.select_eq_filter _ (inclusive .backward)).trans (congrArg _ ?_)
    simpa only [backward] using upToHere

/-- **The conditions cut the sorted list.** Around any record of the sorted list, the conditions
after and before it, without it and with it, select the list behind it and up to it. -/
theorem select_around_cursor {records : List Record} (named : idField ≠ "")
    (ordered : Order.hasField order idField)
    (pageable : Pageable schema order idField records) :
    let all := Sorting.sort order.keys records
    ∀ index (_ : index < all.length),
      (afterCursor order all[index] idField false).select all = .ok (all.drop (index + 1)) ∧
      (beforeCursor order all[index] idField false).select all = .ok (all.take index) ∧
      (afterCursor order all[index] idField true).select all = .ok (all.drop index) ∧
      (beforeCursor order all[index] idField true).select all = .ok (all.take (index + 1)) := by
  intro all index present
  have allPageable : Pageable schema order idField all := pageable.perm (Sorting.perm_sort _ _)
  have increasing := (pageable.ranked ordered).pairwise_sort
  have split : all.take index ++ all[index] :: all.drop (index + 1) = all := by
    rw [List.getElem_cons_drop, List.take_append_drop]
  have cut := @select_around schema order idField (all.take index) (all.drop (index + 1))
    all[index] named ordered (by rwa [split]) (by rwa [split])
  rw [split, List.getElem_cons_drop, List.take_append_getElem] at cut
  exact cut

/-- The ids stand between two levels, and two records tie at the first. -/
theorem select_around_second :
    let order : Order := [⟨"age", .desc⟩, ⟨"id", .asc⟩, ⟨"name", .asc⟩]
    let records : List Record := [
      FieldMap.ofList [("age", .int 25), ("id", .int 2), ("name", .string "bob")],
      FieldMap.ofList [("age", .int 30), ("id", .int 3), ("name", .string "ann")],
      FieldMap.ofList [("age", .int 30), ("id", .int 1), ("name", .string "cat")]]
    let schema : String → Value.Kind := fun field => if field = "name" then .string else .int
    let all := Sorting.sort order.keys records
    "id" ≠ "" ∧ Order.hasField order "id" ∧ Pageable schema order "id" records ∧
      ∃ _ : 1 < all.length,
        (afterCursor order all[1] "id" false).select all = .ok (all.drop 2) ∧
        (beforeCursor order all[1] "id" false).select all = .ok (all.take 1) ∧
        (afterCursor order all[1] "id" true).select all = .ok (all.drop 1) ∧
        (beforeCursor order all[1] "id" true).select all = .ok (all.take 2) := by
  intro order records schema all
  have named : "id" ≠ "" := by decide
  have ordered : Order.hasField order "id" := by decide
  have pageable : Pageable schema order "id" records :=
    { conforms := by unfold Record.Conforms; decide
      distinct := by
        change List.Nodup [Value.int 2, .int 3, .int 1]
        simp }
  have present : 1 < all.length := by
    rw [(Sorting.perm_sort order.keys records).length_eq]
    decide
  exact ⟨named, ordered, pageable, present, select_around_cursor named ordered pageable 1 present⟩

end Cut

end Keyset
