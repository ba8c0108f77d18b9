import Keyset.Cursor
import Keyset.Proofs.Predicate.Eval

/-! # The levels of a cursor condition

The condition of a cursor is a nest of conjunctions and disjunctions, one for each level of the
order. Evaluating it walks the order from its first level: a record passes as soon as it lies
strictly past the cursor, and the walk goes on only while the record ties with the cursor
(`Keyset.CursorCondition.eval_levels`). Unless the cursor is included, the walk ends at the first
level of the ids. So every condition can be evaluated on every record, and says that the record
lies past the cursor in the lexicographic order of the levels
(`Keyset.CursorCondition.eval_build_iff`).
-/

namespace Keyset

namespace PageDirection

/-- How the value of a record that lies strictly past the cursor compares with the value of the
cursor. -/
def past : PageDirection → Direction → Ordering
  | forward, .asc => .gt
  | forward, .desc => .lt
  | backward, .asc => .lt
  | backward, .desc => .gt

theorem holds_strict (direction : PageDirection) (level : Direction) (actual expected : Value) :
    Predicate.holds actual (direction.strict level) expected =
      .ok (actual.compare expected == some (direction.past level)) := by
  cases direction <;> cases level <;> rfl

theorem holds_relaxed (direction : PageDirection) (level : Direction) (actual expected : Value) :
    Predicate.holds actual (direction.relaxed level) expected =
      .ok (actual.compare expected == some (direction.past level) ||
        actual.compare expected == some .eq) := by
  cases compared : actual.compare expected with
  | none =>
      cases direction <;> cases level <;>
        simp only [relaxed, Predicate.holds, Predicate.isAtLeast, Predicate.isAtMost, compared] <;>
        rfl
  | some order =>
      cases order <;> cases direction <;> cases level <;>
        simp only [relaxed, Predicate.holds, Predicate.isAtLeast, Predicate.isAtMost, compared] <;>
        rfl

end PageDirection

namespace CursorCondition

variable (condition : CursorCondition) (direction : PageDirection) (record : Record)

/-- The record lies strictly past the cursor at a level. -/
def isPast (entry : OrderEntry) : Bool :=
  (record.value entry.field).compare (condition.cursor.value entry.field) ==
    some (direction.past entry.direction)

/-- The record ties with the cursor at a level. -/
def ties (entry : OrderEntry) : Bool :=
  (record.value entry.field).compare (condition.cursor.value entry.field) == some .eq

/-- No record ties for good at a level of the ids, unless the cursor is included. -/
def isFinal (entry : OrderEntry) : Bool :=
  !condition.inclusive && entry.field = condition.idField

/-- The walk over the levels: a record passes at the first level where it lies strictly past the
cursor, or after ties at all levels, of which none is final. -/
def passes : Order → Bool
  | [] => true
  | entry :: further =>
    condition.isPast direction record entry ||
      (condition.ties record entry && !condition.isFinal entry && passes further)

theorem eval_boundary (entry : OrderEntry) :
    (Predicate.compare entry.field (condition.boundary direction entry)
        (condition.cursor.value entry.field)).eval record =
      .ok (condition.isPast direction record entry ||
        (condition.ties record entry && !condition.isFinal entry)) := by
  simp only [Predicate.eval, boundary]
  by_cases final : condition.isFinal entry = true
  · have strict : (!condition.inclusive && decide (entry.field = condition.idField)) = true := final
    simp only [strict, ↓reduceIte, final, Bool.not_true, Bool.and_false, Bool.or_false]
    exact direction.holds_strict entry.direction _ _
  · have relaxed : ¬(!condition.inclusive && decide (entry.field = condition.idField)) = true :=
      final
    rw [if_neg relaxed]
    simp only [Bool.not_eq_true] at final
    simp only [final, Bool.not_false, Bool.and_true]
    exact direction.holds_relaxed entry.direction _ _

/-- Evaluating the condition of the levels is the walk over them. -/
theorem eval_levels (order : Order) :
    (condition.levels direction order).eval record =
      .ok (condition.passes direction record order) := by
  induction order with
  | nil => rfl
  | cons entry further ih =>
      cases further with
      | nil =>
          simp only [levels, passes, Bool.and_true]
          exact condition.eval_boundary direction record entry
      | cons next rest =>
          have strict : (Predicate.compare entry.field (direction.strict entry.direction)
              (condition.cursor.value entry.field)).eval record =
                .ok (condition.isPast direction record entry) :=
            direction.holds_strict entry.direction _ _
          simp only [levels]
          rw [Predicate.eval_and_pair record _ _ (condition.eval_boundary direction record entry)
            (Predicate.eval_or_pair record _ _ strict ih), ← Bool.or_and_distrib_left]
          rfl

/-- The record lies strictly past the cursor at a level, and ties with it at every level before. -/
def PassesAt (order : Order) (level : Nat) : Prop :=
  ∃ entry, order[level]? = some entry ∧ condition.isPast direction record entry ∧
    ∀ earlier ∈ order.take level, condition.ties record earlier

theorem passesAt_cons_zero (entry : OrderEntry) (further : Order) :
    condition.PassesAt direction record (entry :: further) 0 ↔
      condition.isPast direction record entry := by
  simp [PassesAt]

theorem passesAt_cons_succ (entry : OrderEntry) (further : Order) (level : Nat) :
    condition.PassesAt direction record (entry :: further) (level + 1) ↔
      condition.ties record entry ∧ condition.PassesAt direction record further level := by
  simp only [PassesAt, List.getElem?_cons_succ, List.take_succ_cons, List.mem_cons,
    forall_eq_or_imp]
  constructor
  · rintro ⟨found, atLevel, isPast, ties, earlier⟩
    exact ⟨ties, found, atLevel, isPast, earlier⟩
  · rintro ⟨ties, found, atLevel, isPast, earlier⟩
    exact ⟨found, atLevel, isPast, ties, earlier⟩

/-- The walk passes a record at some level that no final level precedes, or after ties at all
levels, none of them final. -/
theorem passes_iff (order : Order) :
    condition.passes direction record order = true ↔
      (∃ level, condition.PassesAt direction record order level ∧
        ∀ earlier ∈ order.take level, condition.isFinal earlier = false) ∨
      ∀ entry ∈ order, condition.ties record entry = true ∧ condition.isFinal entry = false := by
  induction order with
  | nil => simp [passes]
  | cons entry further ih =>
      simp only [passes, Bool.or_eq_true, Bool.and_eq_true, Bool.not_eq_true', ih,
        List.forall_mem_cons]
      constructor
      · rintro (isPast | ⟨⟨ties, goesOn⟩, ⟨level, reached, earlier⟩ | all⟩)
        · exact Or.inl ⟨0, (condition.passesAt_cons_zero direction record _ _).mpr isPast, by simp⟩
        · refine Or.inl ⟨level + 1,
            (condition.passesAt_cons_succ direction record _ _ _).mpr ⟨ties, reached⟩, ?_⟩
          rw [List.take_succ_cons, List.forall_mem_cons]
          exact ⟨goesOn, earlier⟩
        · exact Or.inr ⟨⟨ties, goesOn⟩, all⟩
      · rintro (⟨level, reached, earlier⟩ | ⟨⟨ties, goesOn⟩, all⟩)
        · cases level with
          | zero => exact Or.inl ((condition.passesAt_cons_zero direction record _ _).mp reached)
          | succ level =>
              obtain ⟨ties, later⟩ :=
                (condition.passesAt_cons_succ direction record _ _ _).mp reached
              rw [List.take_succ_cons, List.forall_mem_cons] at earlier
              exact Or.inr ⟨⟨ties, earlier.1⟩, Or.inl ⟨level, later, earlier.2⟩⟩
        · exact Or.inr ⟨⟨ties, goesOn⟩, Or.inr all⟩

/-- The first level of the ids. -/
def idLevel : Nat :=
  condition.order.findIdx fun entry => entry.field = condition.idField

theorem le_idLevel_iff {level : Nat} (present : level < condition.order.length) :
    level ≤ condition.idLevel ↔
      ∀ earlier ∈ condition.order.take level, earlier.field ≠ condition.idField := by
  constructor
  · intro atMost earlier member
    obtain ⟨place, before, rfl⟩ := List.mem_take_iff_getElem.mp member
    have notId := List.not_of_lt_findIdx (Nat.lt_of_lt_of_le (Nat.lt_min.mp before).1 atMost)
    simpa using notId
  · intro others
    refine List.le_findIdx_of_not present fun place before => ?_
    have member : condition.order[place] ∈ condition.order.take level :=
      List.mem_take_iff_getElem.mpr ⟨place, Nat.lt_min.mpr ⟨before, by omega⟩, rfl⟩
    simpa using others _ member

/-- With the cursor included, a record passes iff it lies strictly past the cursor at some level
or ties at all of them. -/
theorem passes_of_inclusive (inclusive : condition.inclusive = true) :
    condition.passes direction record condition.order = true ↔
      (∃ level, condition.PassesAt direction record condition.order level) ∨
        ∀ entry ∈ condition.order, condition.ties record entry := by
  simp only [passes_iff, isFinal, inclusive, Bool.not_true, Bool.false_and, implies_true, and_true]

/-- Without the cursor, a record passes iff it lies strictly past the cursor at some level that is
not later than the first level of the ids. -/
theorem passes_of_not_inclusive (exclusive : condition.inclusive = false)
    (ordered : Order.hasField condition.order condition.idField) :
    condition.passes direction record condition.order = true ↔
      ∃ level ≤ condition.idLevel, condition.PassesAt direction record condition.order level := by
  rw [passes_iff]
  simp only [isFinal, exclusive, Bool.not_false, Bool.true_and, decide_eq_false_iff_not]
  constructor
  · rintro (⟨level, reached, others⟩ | all)
    · have present : level < condition.order.length :=
        (List.getElem?_eq_some_iff.mp reached.choose_spec.1).1
      exact ⟨level, (condition.le_idLevel_iff present).mpr others, reached⟩
    · obtain ⟨entry, member, isId⟩ := List.any_eq_true.mp ordered
      exact absurd (of_decide_eq_true isId) (all entry member).2
  · rintro ⟨level, atMost, reached⟩
    have present : level < condition.order.length :=
      (List.getElem?_eq_some_iff.mp reached.choose_spec.1).1
    exact Or.inl ⟨level, reached, (condition.le_idLevel_iff present).mp atMost⟩

theorem defect?_eq_none_iff :
    condition.defect? = none ↔ condition.idField ≠ "" ∧
      Order.hasField condition.order condition.idField ∧
      condition.cursor.contains condition.idField := by
  simp only [defect?]
  split
  next noName => simp [String.isEmpty_iff.mp noName]
  next named =>
    have named : condition.idField ≠ "" := fun noName => named (String.isEmpty_iff.mpr noName)
    split
    next unordered => simp_all
    next ordered => split <;> simp_all

/-- A place without a defect has the condition of its levels. -/
theorem build_of_usable (named : condition.idField ≠ "")
    (ordered : Order.hasField condition.order condition.idField)
    (placed : condition.cursor.contains condition.idField) :
    condition.build direction = .ok (condition.levels direction condition.order) := by
  have usable := condition.defect?_eq_none_iff.mpr ⟨named, ordered, placed⟩
  simp only [build, usable]

/-- **What a cursor condition says.** The condition of a usable cursor is built and evaluates on
every record. Without the cursor it holds iff the record lies strictly past the cursor at a level
not later than the first level of the ids and ties at every level before; with the cursor, iff it
does so at any level or ties at all of them. -/
theorem eval_build_iff (named : condition.idField ≠ "")
    (ordered : Order.hasField condition.order condition.idField)
    (placed : condition.cursor.contains condition.idField) :
    ∃ predicate hit, condition.build direction = .ok predicate ∧
      predicate.eval record = .ok hit ∧
      (hit = true ↔
        if condition.inclusive then
          (∃ level, condition.PassesAt direction record condition.order level) ∨
            ∀ entry ∈ condition.order, condition.ties record entry
        else
          ∃ level ≤ condition.idLevel,
            condition.PassesAt direction record condition.order level) := by
  refine ⟨_, _, condition.build_of_usable direction named ordered placed,
    condition.eval_levels direction record condition.order, ?_⟩
  split
  next inclusive => exact condition.passes_of_inclusive direction record inclusive
  next exclusive =>
    exact condition.passes_of_not_inclusive direction record (Bool.not_eq_true _ ▸ exclusive)
      ordered

/-- The ids stand between two levels; the record ties with the cursor at the first. -/
theorem eval_build_id_between :
    let place : CursorCondition :=
      ⟨[⟨"age", .desc⟩, ⟨"id", .asc⟩, ⟨"name", .asc⟩],
        FieldMap.ofList [("age", .int 30), ("id", .int 7)], "id", false, .reject⟩
    let record : Record := FieldMap.ofList [("age", .int 30), ("id", .int 9)]
    place.idField ≠ "" ∧ Order.hasField place.order place.idField ∧
      place.cursor.contains place.idField ∧
      ∃ predicate hit, place.build .forward = .ok predicate ∧ predicate.eval record = .ok hit ∧
        (hit = true ↔
          ∃ level ≤ place.idLevel, place.PassesAt .forward record place.order level) := by
  intro place record
  have named : place.idField ≠ "" := by decide
  have ordered : Order.hasField place.order place.idField := by decide
  have placed : place.cursor.contains place.idField := by decide
  exact ⟨named, ordered, placed, place.eval_build_iff .forward record named ordered placed⟩

end CursorCondition

end Keyset
