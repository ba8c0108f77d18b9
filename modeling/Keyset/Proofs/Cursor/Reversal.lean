import Keyset.Cursor

/-! # Conditions in the reversed order

The comparisons of a level depend on whether the page direction and the direction of the level go
the same way, so turning one of them round does what turning the other one does
(`Keyset.PageDirection.strict_reverse`, `Keyset.PageDirection.relaxed_reverse`). Which fields are
levels does not depend on directions at all, so neither do the defects of a place. Hence the
condition of the records before a cursor is that of the records after it in the reversed order
(`Keyset.before_eq_after_reversed`).
-/

namespace Keyset

namespace PageDirection

theorem strict_reverse (direction : PageDirection) (level : Direction) :
    direction.strict level.reverse = direction.reverse.strict level := by
  cases direction <;> cases level <;> rfl

theorem relaxed_reverse (direction : PageDirection) (level : Direction) :
    direction.relaxed level.reverse = direction.reverse.relaxed level := by
  cases direction <;> cases level <;> rfl

end PageDirection

namespace Order

theorem reversed_cons (entry : OrderEntry) (further : Order) :
    reversed (entry :: further) =
      ⟨entry.field, entry.direction.reverse⟩ :: reversed further := rfl

theorem hasField_reversed (order : Order) (field : String) :
    hasField (reversed order) field = hasField order field := by
  induction order with
  | nil => rfl
  | cons entry further ih =>
      rw [reversed_cons, hasField, List.any_cons, hasField, List.any_cons]
      exact congrArg (decide (entry.field = field) || ·) ih

end Order

namespace CursorCondition

variable (condition : CursorCondition) (direction : PageDirection)

/-- The same place in the reversed order. -/
def reversed : CursorCondition :=
  { condition with order := Order.reversed condition.order }

/-- A place in the reversed order has the same defect, if any. -/
theorem defect?_reversed : condition.reversed.defect? = condition.defect? := by
  have ordered : Order.hasField condition.reversed.order condition.idField =
      Order.hasField condition.order condition.idField :=
    Order.hasField_reversed condition.order condition.idField
  rw [defect?, defect?, ← ordered]
  rfl

theorem boundary_reversed (entry : OrderEntry) :
    condition.reversed.boundary direction ⟨entry.field, entry.direction.reverse⟩ =
      condition.boundary direction.reverse entry := by
  rw [boundary, boundary, direction.strict_reverse, direction.relaxed_reverse]
  rfl

/-- The condition of the reversed levels, read the other way, is that of the levels. -/
theorem levels_reversed (order : Order) :
    condition.reversed.levels direction (Order.reversed order) =
      condition.levels direction.reverse order := by
  induction order with
  | nil => rfl
  | cons entry further ih =>
      have opening := condition.boundary_reversed direction entry
      cases further with
      | nil =>
          exact congrArg (Predicate.compare entry.field · (condition.cursor.value entry.field))
            opening
      | cons next rest =>
          simp only [Order.reversed_cons, levels, opening, direction.strict_reverse] at ih ⊢
          rw [ih]
          rfl

theorem build_reversed :
    condition.reversed.build direction = condition.build direction.reverse := by
  have levels : condition.reversed.levels direction condition.reversed.order =
      condition.levels direction.reverse condition.order :=
    condition.levels_reversed direction condition.order
  rw [build, build, defect?_reversed, levels]
  rfl

end CursorCondition

theorem pageCondition_reversed (direction : PageDirection) (order : Order) (cursor : Cursor)
    (idField : String) (inclusive : Bool) :
    pageCondition direction (Order.reversed order) cursor idField inclusive =
      pageCondition direction.reverse order cursor idField inclusive := by
  have built := CursorCondition.build_reversed
    ⟨order, cursor, idField, inclusive, .unconstrained⟩ direction
  rw [pageCondition, pageCondition, ← built]
  rfl

/-- **Before is after in the reversed order.** A place in an order gives the same condition, or the
same defect, for the records before it as the place in the reversed order does for the records
after it, and the other way round, whether or not the place is usable and whatever becomes of it if
it is not. -/
theorem before_eq_after_reversed (order : Order) (cursor : Cursor) (idField : String)
    (inclusive : Bool) (fallback : Fallback) :
    let place : CursorCondition := ⟨order, cursor, idField, inclusive, fallback⟩
    let turned : CursorCondition := ⟨Order.reversed order, cursor, idField, inclusive, fallback⟩
    place.before = turned.after ∧ place.after = turned.before ∧
      beforeCursor order cursor idField inclusive =
        afterCursor (Order.reversed order) cursor idField inclusive ∧
      afterCursor order cursor idField inclusive =
        beforeCursor (Order.reversed order) cursor idField inclusive := by
  intro place turned
  have same : turned = place.reversed := rfl
  refine ⟨?_, ?_, ?_, ?_⟩
  · rw [same]
    exact (place.build_reversed .forward).symm
  · rw [same]
    exact (place.build_reversed .backward).symm
  · exact (pageCondition_reversed .forward order cursor idField inclusive).symm
  · exact (pageCondition_reversed .backward order cursor idField inclusive).symm

end Keyset
