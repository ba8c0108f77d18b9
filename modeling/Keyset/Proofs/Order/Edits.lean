import Mathlib.Data.List.Induction
import Mathlib.Data.List.Nodup
import Mathlib.Data.List.TakeWhile
import Keyset.Order.Basic

/-! # Runs of edits of an order

An order is edited by making the ids its last level and by reversing it, any number of times and
with any fields of ids. What comes of a run of edits is told from the edits as a whole: the levels
of the order, then the new fields in the order of their first use, each turned by the reversals that
came after it (`Keyset.Order.edited_eq_outcome`). So a run repeats no field that was not repeated
before, and what validation answers of the result is told from the order and the edits
(`Keyset.Order.validate_edited`).
-/

namespace Keyset

/-- The direction after so many reversals. -/
def Direction.turned (direction : Direction) (times : Nat) : Direction :=
  if times % 2 = 0 then direction else direction.reverse

theorem Direction.turned_succ (direction : Direction) (times : Nat) :
    direction.turned (times + 1) = (direction.turned times).reverse := by
  rcases Nat.mod_two_eq_zero_or_one times with even | odd
  · rw [turned, turned, if_neg (by omega), if_pos even]
  · rw [turned, turned, if_pos (by omega), if_neg (by omega), reverse_reverse]

namespace Order

/-- A step in the making of an order. -/
inductive Edit
  /-- The ids, under that name, become the last level, unless they are a level. -/
  | breakTies (idField : String)
  | reverse
deriving DecidableEq

namespace Edit

/-- The order after the step. -/
def apply (order : Order) : Edit → Order
  | breakTies idField => withTieBreaker order idField
  | reverse => reversed order

/-- The field that the step makes a level. -/
def idField? : Edit → Option String
  | breakTies idField => some idField
  | reverse => none

end Edit

/-- The order after a run of edits. -/
def edited (order : Order) (edits : List Edit) : Order :=
  edits.foldl Edit.apply order

/-- How often a run reverses the order. -/
def reversals (edits : List Edit) : Nat :=
  edits.count .reverse

/-- How often a run reverses the order after it has first made a field a level. -/
def reversalsSince (field : String) (edits : List Edit) : Nat :=
  reversals (edits.dropWhile fun edit => edit ≠ .breakTies field)

/-- The fields that a run adds to an order, each once, in the order of their first use. -/
def newFields (order : Order) (edits : List Edit) : List String :=
  (edits.filterMap Edit.idField?).eraseDups.filter fun field => field ∉ fields order

/-- What comes of a run, told from the edits as a whole. -/
def outcome (order : Order) (edits : List Edit) : Order :=
  order.map (fun entry => ⟨entry.field, entry.direction.turned (reversals edits)⟩) ++
    (newFields order edits).map fun field =>
      ⟨field, Direction.asc.turned (reversalsSince field edits)⟩

section Runs

variable {order : Order} {edits : List Edit} {field : String}

theorem mem_tieBreakers_iff : field ∈ edits.filterMap Edit.idField? ↔ .breakTies field ∈ edits := by
  rw [List.mem_filterMap]
  constructor
  · rintro ⟨edit, member, makes⟩
    cases edit with
    | breakTies idField =>
        obtain rfl := Option.some.inj makes
        exact member
    | reverse => cases makes
  · exact fun member => ⟨_, member, rfl⟩

theorem mem_newFields_iff :
    field ∈ newFields order edits ↔ .breakTies field ∈ edits ∧ field ∉ fields order := by
  rw [newFields, List.mem_filter, List.mem_eraseDups, mem_tieBreakers_iff, decide_eq_true_iff]

theorem fields_outcome (order : Order) (edits : List Edit) :
    fields (outcome order edits) = fields order ++ newFields order edits := by
  rw [fields, outcome, List.map_append, List.map_map, List.map_map]
  exact congrArg (_ ++ ·) (List.map_id _)

theorem mem_fields_outcome_iff :
    field ∈ fields (outcome order edits) ↔ field ∈ fields order ∨ .breakTies field ∈ edits := by
  rw [fields_outcome, List.mem_append, mem_newFields_iff]
  by_cases old : field ∈ fields order
  · simp only [old, true_or]
  · simp only [old, not_false_eq_true, and_true]

/-- Once a field is a level, later reversals turn it. -/
theorem reversalsSince_append (used : .breakTies field ∈ edits) (more : List Edit) :
    reversalsSince field (edits ++ more) = reversalsSince field edits + reversals more := by
  have reached : ¬(edits.dropWhile fun edit => edit ≠ .breakTies field).isEmpty = true := by
    rw [List.isEmpty_iff, List.dropWhile_eq_nil_iff]
    exact fun passed => of_decide_eq_true (passed _ used) rfl
  rw [reversalsSince, List.dropWhile_append, if_neg reached]
  exact List.count_append

theorem reversalsSince_append_of_not_mem (unused : .breakTies field ∉ edits) (more : List Edit) :
    reversalsSince field (edits ++ more) = reversalsSince field more := by
  have passed : ∀ edit ∈ edits, decide (edit ≠ .breakTies field) = true := fun edit member =>
    decide_eq_true fun same => unused (same ▸ member)
  rw [reversalsSince, List.dropWhile_append_of_pos passed]
  rfl

theorem newFields_append_reverse :
    newFields order (edits ++ [.reverse]) = newFields order edits := by
  rw [newFields, List.filterMap_append, show [Edit.reverse].filterMap Edit.idField? = [] from rfl,
    List.append_nil]
  rfl

theorem newFields_append_breakTies :
    newFields order (edits ++ [.breakTies field]) =
      newFields order edits ++ if field ∈ fields (outcome order edits) then [] else [field] := by
  rw [newFields, List.filterMap_append,
    show [Edit.breakTies field].filterMap Edit.idField? = [field] from rfl,
    List.eraseDups_append, List.filter_append]
  congr 1
  by_cases used : .breakTies field ∈ edits
  · have kept : [field].removeAll (edits.filterMap Edit.idField?) = [] := by
      rw [List.removeAll, List.filter_cons_of_neg (by simpa using mem_tieBreakers_iff.mpr used)]
      rfl
    rw [kept, if_pos (mem_fields_outcome_iff.mpr (Or.inr used))]
    rfl
  · have kept : [field].removeAll (edits.filterMap Edit.idField?) = [field] := by
      rw [List.removeAll, List.filter_cons_of_pos (by simpa using mt mem_tieBreakers_iff.mp used)]
      rfl
    rw [kept]
    change [field].filter _ = _
    by_cases old : field ∈ fields order <;> simp [mem_fields_outcome_iff, old, used]

/-! ## One step more -/

theorem outcome_append_reverse (order : Order) (edits : List Edit) :
    outcome order (edits ++ [.reverse]) = reversed (outcome order edits) := by
  have once : reversals (edits ++ [.reverse]) = reversals edits + 1 := List.count_append
  rw [outcome, outcome, reversed, List.map_append, List.map_map, List.map_map, once,
    newFields_append_reverse]
  congr 1
  · exact List.map_congr_left fun entry _ => by rw [Direction.turned_succ]; rfl
  · refine List.map_congr_left fun field new => ?_
    rw [reversalsSince_append (mem_newFields_iff.mp new).1]
    exact congrArg (OrderEntry.mk field) (Direction.turned_succ _ _)

theorem outcome_append_breakTies (order : Order) (edits : List Edit) (idField : String) :
    outcome order (edits ++ [.breakTies idField]) =
      withTieBreaker (outcome order edits) idField := by
  have never : reversals [.breakTies idField] = 0 := rfl
  have turnedOld : reversals (edits ++ [.breakTies idField]) = reversals edits := List.count_append
  have turnedNew : (newFields order edits).map (fun field => OrderEntry.mk field
        (Direction.asc.turned (reversalsSince field (edits ++ [.breakTies idField])))) =
      (newFields order edits).map fun field => OrderEntry.mk field
        (Direction.asc.turned (reversalsSince field edits)) :=
    List.map_congr_left fun field new => by
      rw [reversalsSince_append (mem_newFields_iff.mp new).1, never, Nat.add_zero]
  rw [outcome, turnedOld, newFields_append_breakTies, List.map_append, turnedNew,
    ← List.append_assoc]
  change outcome order edits ++ _ = _
  by_cases known : idField ∈ fields (outcome order edits)
  · rw [if_pos known, withTieBreaker, if_pos (hasField_iff.mpr known)]
    exact List.append_nil _
  · have unused : .breakTies idField ∉ edits := fun used =>
      known (mem_fields_outcome_iff.mpr (Or.inr used))
    rw [if_neg known, withTieBreaker, if_neg (mt hasField_iff.mp known), List.map_singleton,
      reversalsSince_append_of_not_mem unused]
    simp [reversalsSince, reversals, Direction.turned]

theorem outcome_append (order : Order) (edits : List Edit) (edit : Edit) :
    outcome order (edits ++ [edit]) = edit.apply (outcome order edits) := by
  cases edit with
  | breakTies idField => exact outcome_append_breakTies order edits idField
  | reverse => exact outcome_append_reverse order edits

theorem edited_eq_outcome (order : Order) (edits : List Edit) :
    edited order edits = outcome order edits := by
  induction edits using List.reverseRecOn with
  | nil =>
      change order = order.map id ++ []
      rw [List.map_id, List.append_nil]
  | append_singleton edits edit ih =>
      rw [edited, List.foldl_append, outcome_append, ← ih]
      rfl

theorem nodup_newFields (order : Order) (edits : List Edit) : (newFields order edits).Nodup := by
  induction edits using List.reverseRecOn with
  | nil => exact List.nodup_nil
  | append_singleton edits edit ih =>
      cases edit with
      | reverse => rwa [newFields_append_reverse]
      | breakTies idField =>
          rw [newFields_append_breakTies]
          split
          next => rwa [List.append_nil]
          next fresh =>
            rw [fields_outcome, List.mem_append, not_or] at fresh
            rw [← List.concat_eq_append]
            exact List.Nodup.concat fresh.2 ih

theorem nodup_fields_outcome_iff : (fields (outcome order edits)).Nodup ↔ (fields order).Nodup := by
  rw [fields_outcome, List.nodup_append']
  refine ⟨And.left, fun nodup => ⟨nodup, nodup_newFields order edits, fun field old new => ?_⟩⟩
  exact (mem_newFields_iff.mp new).2 old

end Runs

/-! ## What validation answers -/

section Validation

variable {order : Order} {field other idField : String} {names seen : List String}

/-- The first field of a list that occurs before its place. -/
def IsFirstRepeated (field : String) (names : List String) : Prop :=
  ∃ front back, names = front ++ field :: back ∧ front.Nodup ∧ field ∈ front

theorem IsFirstRepeated.not_nodup (repeated : IsFirstRepeated field names) : ¬names.Nodup := by
  obtain ⟨front, back, rfl, -, before⟩ := repeated
  exact fun nodup => List.disjoint_of_nodup_append nodup before List.mem_cons_self

/-- A list without repetitions stops before the first repeated field, if not earlier. -/
theorem IsFirstRepeated.eq_of_append {front back more : List String} (before : field ∈ front)
    (nodup : (front ++ more).Nodup) (same : field :: back = more ++ other :: names) :
    field = other := by
  cases more with
  | nil => exact (List.cons.inj same).1
  | cons name more =>
      obtain rfl := (List.cons.inj same).1
      exact absurd List.mem_cons_self (List.disjoint_of_nodup_append nodup before)

theorem IsFirstRepeated.unique (first : IsFirstRepeated field names)
    (second : IsFirstRepeated other names) : field = other := by
  obtain ⟨front, back, rfl, nodup, before⟩ := first
  obtain ⟨front', back', same, nodup', before'⟩ := second
  rcases List.append_eq_append_iff.mp same with ⟨more, rfl, rests⟩ | ⟨more, rfl, rests⟩
  · exact eq_of_append before nodup' rests
  · exact (eq_of_append before' nodup rests).symm

/-- The names seen so far are those before the ones to come. -/
theorem firstRepeated?_cases (distinct : seen.Nodup) (names : List String) :
    (firstRepeated? seen names = none ∧ (seen.reverse ++ names).Nodup) ∨
      ∃ field, firstRepeated? seen names = some field ∧
        IsFirstRepeated field (seen.reverse ++ names) := by
  induction names generalizing seen with
  | nil => exact Or.inl ⟨rfl, by rwa [List.append_nil, List.nodup_reverse]⟩
  | cons name rest ih =>
      rw [firstRepeated?]
      split
      next repeated =>
        exact Or.inr ⟨name, rfl, seen.reverse, rest, rfl, List.nodup_reverse.mpr distinct,
          List.mem_reverse.mpr (List.contains_iff_mem.mp repeated)⟩
      next fresh =>
        have further := ih (List.nodup_cons.mpr ⟨mt List.contains_iff_mem.mpr fresh, distinct⟩)
        rwa [List.reverse_cons, List.append_assoc] at further

theorem validate_cases (order : Order) (idField : String) :
    (∃ field, IsFirstRepeated field (fields order) ∧
        validate order idField = .error (.repeated field)) ∨
      (fields order).Nodup ∧
        validate order idField =
          if idField ∈ fields order then .ok () else .error (.withoutId idField) := by
  rcases firstRepeated?_cases List.nodup_nil (fields order) with
    ⟨none, nodup⟩ | ⟨field, some, first⟩
  · refine Or.inr ⟨nodup, ?_⟩
    simp only [validate, none, hasField_iff]
  · refine Or.inl ⟨field, first, ?_⟩
    simp only [validate, some]

theorem validate_eq_ok_iff :
    validate order idField = .ok () ↔ (fields order).Nodup ∧ idField ∈ fields order := by
  rcases validate_cases order idField with ⟨field, first, answer⟩ | ⟨nodup, answer⟩
  · simp [answer, first.not_nodup]
  · by_cases ordered : idField ∈ fields order <;> simp [answer, nodup, ordered]

theorem validate_eq_error_iff {error : OrderError} :
    validate order idField = .error error ↔
      (∃ field, IsFirstRepeated field (fields order) ∧ error = .repeated field) ∨
        ((fields order).Nodup ∧ idField ∉ fields order ∧ error = .withoutId idField) := by
  rcases validate_cases order idField with ⟨field, first, answer⟩ | ⟨nodup, answer⟩
  · rw [answer]
    constructor
    · rintro ⟨⟩
      exact Or.inl ⟨field, first, rfl⟩
    · rintro (⟨other, alsoFirst, rfl⟩ | ⟨nodup, -⟩)
      · rw [first.unique alsoFirst]
      · exact absurd nodup first.not_nodup
  · have noFirst : ∀ field, ¬IsFirstRepeated field (fields order) := fun field first =>
      first.not_nodup nodup
    by_cases ordered : idField ∈ fields order
    · simp [answer, ordered, noFirst]
    · simp [answer, ordered, noFirst, nodup, eq_comm]

end Validation

/-- **Runs of edits keep an order valid.** After a run the levels of the order stand first, turned
round if it was reversed an odd number of times, then the new fields, of which each is turned round
if that was so since its first use. The result is valid iff the order has no field twice and the ids
are a field of it or of some step; otherwise its first repeated field is reported, and the field of
the ids only if there is none. -/
theorem validate_edited (order : Order) (edits : List Edit) :
    (edited order edits =
        order.map (fun entry => ⟨entry.field, entry.direction.turned (reversals edits)⟩) ++
          (newFields order edits).map fun field =>
            ⟨field, Direction.asc.turned (reversalsSince field edits)⟩) ∧
      fields (edited order edits) = fields order ++ newFields order edits ∧
      (newFields order edits).Nodup ∧
      ∀ idField,
        (validate (edited order edits) idField = .ok () ↔
          (fields order).Nodup ∧ (idField ∈ fields order ∨ .breakTies idField ∈ edits)) ∧
        ∀ error, validate (edited order edits) idField = .error error ↔
          (∃ field, IsFirstRepeated field (fields (edited order edits)) ∧
              error = .repeated field) ∨
            ((fields (edited order edits)).Nodup ∧ idField ∉ fields (edited order edits) ∧
              error = .withoutId idField) := by
  refine ⟨edited_eq_outcome order edits, ?_, nodup_newFields order edits, fun idField => ⟨?_,
    fun error => validate_eq_error_iff⟩⟩
  · rw [edited_eq_outcome, fields_outcome]
  · rw [edited_eq_outcome, validate_eq_ok_iff, nodup_fields_outcome_iff, mem_fields_outcome_iff]

end Order

end Keyset
