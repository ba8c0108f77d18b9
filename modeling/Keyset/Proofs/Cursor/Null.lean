import Keyset.Proofs.Cursor.Levels
import Keyset.Proofs.Value.Order

/-! # Null at a level

Null compares with nothing but null, and with null it ties. So no record lies strictly past a
cursor at a level where either of them has no value, and it gets over that level only if both have
none. A level that lets no record over decides a condition by the levels before it
(`Keyset.CursorCondition.eval_build_of_null`). It does not exclude a record that lies past the
cursor earlier, nor one that ties with the cursor in being null
(`Keyset.CursorCondition.eval_build_null_meets_null`).
-/

namespace Keyset

namespace CursorCondition

variable (condition : CursorCondition) (direction : PageDirection) (record : Record)

/-- The record or the cursor is null at a level. -/
def IsNullAt (entry : OrderEntry) : Prop :=
  (record.value entry.field).isNull ∨ (condition.cursor.value entry.field).isNull

/-- The record and the cursor are both null at a level. -/
def AreNullAt (entry : OrderEntry) : Prop :=
  (record.value entry.field).isNull ∧ (condition.cursor.value entry.field).isNull

variable {condition record} {entry : OrderEntry}

theorem isPast_of_null (missing : condition.IsNullAt record entry) :
    condition.isPast direction record entry = false := by
  rw [isPast, Value.compare_of_isNull missing]
  obtain ⟨field, level⟩ := entry
  split <;> cases direction <;> cases level <;> rfl

theorem ties_of_null (missing : condition.IsNullAt record entry) :
    condition.ties record entry = true ↔ condition.AreNullAt record entry := by
  rw [ties, Value.compare_of_isNull missing, AreNullAt, ← Bool.and_eq_true]
  split
  next both => exact iff_of_true rfl both
  next single => exact iff_of_false Bool.false_ne_true single

/-- A level that is null, and that a tie of nulls does not get over, is decided by the levels
before it. -/
theorem passes_of_null {order : Order} {level : Nat} (atLevel : order[level]? = some entry)
    (missing : condition.IsNullAt record entry)
    (closed : condition.AreNullAt record entry → condition.isFinal entry = true) :
    condition.passes direction record order = true ↔
      ∃ earlier < level, condition.PassesAt direction record order earlier ∧
        ∀ first ∈ order.take earlier, condition.isFinal first = false := by
  have stays : ¬(condition.ties record entry = true ∧ condition.isFinal entry = false) := by
    rintro ⟨ties, open'⟩
    rw [closed ((ties_of_null missing).mp ties)] at open'
    contradiction
  rw [passes_iff]
  constructor
  · rintro (⟨reached, passes, goesOn⟩ | all)
    · refine ⟨reached, ?_, passes, goesOn⟩
      obtain ⟨decider, found, isPast, earlierTie⟩ := passes
      rcases Nat.lt_trichotomy reached level with before | here | after
      · exact before
      · rw [here, atLevel] at found
        obtain rfl := Option.some.inj found
        rw [isPast_of_null direction missing] at isPast
        contradiction
      · have member : entry ∈ order.take reached := by
          rw [List.mem_take_iff_getElem]
          obtain ⟨present, same⟩ := List.getElem?_eq_some_iff.mp atLevel
          exact ⟨level, Nat.lt_min.mpr ⟨after, present⟩, same⟩
        exact absurd ⟨earlierTie entry member, goesOn entry member⟩ stays
    · exact absurd (all entry (List.mem_of_getElem? atLevel)) stays
  · rintro ⟨earlier, -, passes, goesOn⟩
    exact Or.inl ⟨earlier, passes, goesOn⟩

/-- **What null excludes.** If the record or the cursor is null at a level, and they are not both
null where a tie counts, the condition holds iff the record lies strictly past the cursor at an
earlier level, after ties at all levels before that one. -/
theorem eval_build_of_null {level : Nat} (named : condition.idField ≠ "")
    (ordered : Order.hasField condition.order condition.idField)
    (placed : condition.cursor.contains condition.idField)
    (atLevel : condition.order[level]? = some entry)
    (missing : (record.value entry.field).isNull ∨
      (condition.cursor.value entry.field).isNull)
    (closed : (record.value entry.field).isNull ∧ (condition.cursor.value entry.field).isNull →
      condition.inclusive = false ∧ entry.field = condition.idField) :
    ∃ predicate hit, condition.build direction = .ok predicate ∧ predicate.eval record = .ok hit ∧
      (hit = true ↔ ∃ earlier < level,
        condition.PassesAt direction record condition.order earlier ∧
          (condition.inclusive = true ∨ earlier ≤ condition.idLevel)) := by
  have final : condition.AreNullAt record entry → condition.isFinal entry = true := by
    intro both
    obtain ⟨exclusive, isId⟩ := closed both
    simp only [isFinal, exclusive, isId, Bool.not_false, decide_true, Bool.and_self]
  refine ⟨_, _, condition.build_of_usable direction named ordered placed,
    condition.eval_levels direction record condition.order, ?_⟩
  rw [passes_of_null direction atLevel missing final]
  have inOrder : level < condition.order.length := (List.getElem?_eq_some_iff.mp atLevel).1
  constructor
  · rintro ⟨earlier, before, passes, goesOn⟩
    refine ⟨earlier, before, passes, ?_⟩
    cases inclusive : condition.inclusive with
    | true => exact Or.inl rfl
    | false =>
        right
        rw [condition.le_idLevel_iff (Nat.lt_trans before inOrder)]
        intro first member
        simpa only [isFinal, inclusive, Bool.not_false, Bool.true_and,
          decide_eq_false_iff_not] using goesOn first member
  · rintro ⟨earlier, before, passes, within⟩
    refine ⟨earlier, before, passes, fun first member => ?_⟩
    rcases within with inclusive | atMost
    · simp only [isFinal, inclusive, Bool.not_true, Bool.false_and]
    · have others := (condition.le_idLevel_iff (Nat.lt_trans before inOrder)).mp atMost
      simp only [isFinal, others first member, decide_false, Bool.and_false]

/-- A record without a name lies past the cursor by its age, so the missing name excludes it
not. -/
theorem eval_build_null_behind :
    let place : CursorCondition :=
      ⟨[⟨"age", .desc⟩, ⟨"name", .asc⟩, ⟨"id", .asc⟩],
        FieldMap.ofList [("age", .int 30), ("id", .int 7), ("name", .string "m")], "id", false,
        .unconstrained⟩
    let record : Record := FieldMap.ofList [("age", .int 20), ("id", .int 4)]
    place.idField ≠ "" ∧ Order.hasField place.order place.idField ∧
      place.cursor.contains place.idField ∧ place.order[1]? = some ⟨"name", .asc⟩ ∧
      ((record.value "name").isNull ∨ (place.cursor.value "name").isNull) ∧
      ¬((record.value "name").isNull ∧ (place.cursor.value "name").isNull) ∧
      ∃ predicate, place.build .forward = .ok predicate ∧ predicate.eval record = .ok true := by
  intro place record
  have named : place.idField ≠ "" := by decide
  have ordered : Order.hasField place.order place.idField := by decide
  have placed : place.cursor.contains place.idField := by decide
  have atLevel : place.order[1]? = some ⟨"name", .asc⟩ := rfl
  have missing : (record.value "name").isNull ∨ (place.cursor.value "name").isNull := by decide
  have single : ¬((record.value "name").isNull ∧ (place.cursor.value "name").isNull) := by decide
  obtain ⟨predicate, hit, built, evaluates, holds⟩ :=
    place.eval_build_of_null .forward named ordered placed atLevel missing (absurd · single)
  have passes : place.PassesAt .forward record place.order 0 :=
    ⟨⟨"age", .desc⟩, rfl, by decide, List.forall_mem_nil _⟩
  have isHit : hit = true := holds.mpr ⟨0, Nat.zero_lt_one, passes, Or.inr (Nat.zero_le _)⟩
  exact ⟨named, ordered, placed, atLevel, missing, single, predicate, built, isHit ▸ evaluates⟩

/-- A record without an age matches the condition of a cursor without an age: null ties with
null. -/
theorem eval_build_null_meets_null :
    let place : CursorCondition :=
      ⟨[⟨"age", .asc⟩, ⟨"id", .asc⟩], FieldMap.ofList [("age", .null), ("id", .int 3)], "id",
        false, .unconstrained⟩
    let record : Record := FieldMap.ofList [("age", .null), ("id", .int 5)]
    place.idField ≠ "" ∧ Order.hasField place.order place.idField ∧
      place.cursor.contains place.idField ∧ Order.hasField place.order "age" ∧
      (record.value "age").isNull ∧ (place.cursor.value "age").isNull ∧
      ∃ predicate, place.build .forward = .ok predicate ∧ predicate.eval record = .ok true := by
  intro place record
  have named : place.idField ≠ "" := by decide
  have ordered : Order.hasField place.order place.idField := by decide
  have placed : place.cursor.contains place.idField := by decide
  have walk : place.passes .forward record place.order = true := by decide
  refine ⟨named, ordered, placed, by decide, by decide, by decide, _,
    place.build_of_usable .forward named ordered placed, ?_⟩
  rw [eval_levels, walk]

end CursorCondition

end Keyset
