import Keyset.Predicate.Eval
import Keyset.Proofs.Value.Order

/-! # Comparisons with null

An operator of one value holds in certain orders of the two values, and so never of values without
an order. The operators of lists and of bounds are made of these: membership is a tie with some
item, and a value is within two bounds if it compares with both. Null has an order with null alone,
where it ties. So a field that is null passes the comparisons in which a tie with null counts, and
it is outside any bounds that it does not tie with (`Keyset.Predicate.passes_null_iff`).
-/

namespace Keyset.Predicate

/-- The operators that compare with one value. -/
def scalarOperators : List Operator :=
  [.eq, .ne, .gt, .gte, .lt, .lte]

/-- The operators that compare with a list or with two bounds. -/
def listOperators : List Operator :=
  [.isIn, .notIn, .between, .notBetween]

/-- The operators that hold of values that tie. -/
def tieOperators : List Operator :=
  [.eq, .gte, .lte]

/-- The orders of two values in which an operator holds of them. -/
def orders : Operator → List Ordering
  | .eq => [.eq]
  | .ne => [.lt, .gt]
  | .gt => [.gt]
  | .gte => [.gt, .eq]
  | .lt => [.lt]
  | .lte => [.lt, .eq]
  | _ => []

/-- A record satisfies the comparison of a field with a value. -/
def Passes (record : Record) (field : String) (op : Operator) (expected : Value) : Prop :=
  (compare field op expected).eval record = .ok true

variable {record : Record} {field : String} {op : Operator} {expected : Value}

theorem tieOperators_subset : tieOperators ⊆ scalarOperators := by decide

theorem eq_mem_orders_iff : .eq ∈ orders op ↔ op ∈ tieOperators := by
  cases op <;> decide

/-! ## One value -/

theorem passes_scalar_iff (scalar : op ∈ scalarOperators) :
    Passes record field op expected ↔
      ∃ order ∈ orders op, (record.value field).compare expected = some order := by
  simp only [scalarOperators, List.mem_cons, List.not_mem_nil, or_false] at scalar
  unfold Passes eval
  obtain rfl | rfl | rfl | rfl | rfl | rfl := scalar
  all_goals
    simp only [holds, areEqual, isAtLeast, isAtMost]
    cases (record.value field).compare expected with
    | none => simp
    | some order => cases order <;> simp [orders]

/-- Where a value is null, an operator of one value holds only of two nulls that it lets tie. -/
theorem passes_scalar_of_isNull (scalar : op ∈ scalarOperators)
    (missing : (record.value field).isNull ∨ expected.isNull) :
    Passes record field op expected ↔
      (record.value field = .null ∧ expected = .null) ∧ op ∈ tieOperators := by
  rw [passes_scalar_iff scalar, Value.compare_of_isNull missing, ← Value.isNull_iff,
    ← Value.isNull_iff, ← Bool.and_eq_true, ← eq_mem_orders_iff]
  by_cases both : ((record.value field).isNull && expected.isNull) = true
  · simp [both]
  · simp [both]

/-! ## Lists and bounds -/

theorem passes_isIn_iff {items : List Value} :
    Passes record field .isIn (.array items) ↔ ∃ item ∈ items, Passes record field .eq item := by
  simp only [Passes, eval, holds, Except.ok.injEq, List.any_eq_true]

theorem passes_notIn_iff {items : List Value} :
    Passes record field .notIn (.array items) ↔
      record.value field ≠ .null ∧ ∀ item ∈ items, ¬Passes record field .eq item := by
  rw [ne_eq, ← Value.isNull_iff, and_comm]
  simp only [Passes, eval, holds, Except.ok.injEq, Bool.and_eq_true, Bool.not_eq_true',
    List.any_eq_false, Bool.not_eq_true]

theorem passes_between_iff {low high : Value} :
    Passes record field .between (.array [low, high]) ↔
      Passes record field .gte low ∧ Passes record field .lte high := by
  simp only [Passes, eval, holds, Except.ok.injEq, Bool.and_eq_true]

theorem passes_notBetween_iff {low high : Value} :
    Passes record field .notBetween (.array [low, high]) ↔
      ¬(Passes record field .gte low ∧ Passes record field .lte high) := by
  simp only [Passes, eval, holds, Except.ok.injEq, Bool.not_eq_true', ← Bool.not_eq_true,
    Bool.and_eq_true]

theorem exists_items_of_passes (member : op = .isIn ∨ op = .notIn)
    (passes : Passes record field op expected) : ∃ items, expected = .array items := by
  rw [Passes, eval] at passes
  obtain rfl | rfl := member
  all_goals
    simp only [holds] at passes
    split at passes
    · exact ⟨_, rfl⟩
    · cases passes

theorem exists_bounds_of_passes (bounded : op = .between ∨ op = .notBetween)
    (passes : Passes record field op expected) : ∃ low high, expected = .array [low, high] := by
  rw [Passes, eval] at passes
  obtain rfl | rfl := bounded
  all_goals
    simp only [holds] at passes
    split at passes
    · exact ⟨_, _, rfl⟩
    · cases passes

/-! ## Null -/

/-- The comparisons that hold of a field that is null: with null, where a tie counts, with a list or
bounds that null ties with, and with bounds that it does not both tie with, if the field is to be
outside them. -/
inductive AdmitsNull : Operator → Value → Prop
  | tie {op : Operator} (counts : op ∈ tieOperators) : AdmitsNull op .null
  | member {items : List Value} (listed : .null ∈ items) : AdmitsNull .isIn (.array items)
  | inside : AdmitsNull .between (.array [.null, .null])
  | outside {low high : Value} (bounded : ¬(low = .null ∧ high = .null)) :
      AdmitsNull .notBetween (.array [low, high])

section Absent

variable (absent : record.value field = .null)

include absent

theorem passes_tie_of_null (counts : op ∈ tieOperators) :
    Passes record field op expected ↔ expected = .null := by
  have scalar : op ∈ scalarOperators := tieOperators_subset counts
  have missing : (record.value field).isNull := Value.isNull_iff.mpr absent
  rw [passes_scalar_of_isNull scalar (Or.inl missing)]
  simp only [absent, counts, true_and, and_true]

theorem passes_bounds_of_null {low high : Value} :
    (Passes record field .gte low ∧ Passes record field .lte high) ↔ low = .null ∧ high = .null :=
  and_congr (passes_tie_of_null absent (by decide)) (passes_tie_of_null absent (by decide))

theorem AdmitsNull.passes (admits : AdmitsNull op expected) :
    Passes record field op expected := by
  cases admits with
  | tie counts => exact (passes_tie_of_null absent counts).mpr rfl
  | member listed =>
      have ties : Passes record field .eq .null :=
        (passes_tie_of_null absent (by decide)).mpr rfl
      exact passes_isIn_iff.mpr ⟨.null, listed, ties⟩
  | inside => exact passes_between_iff.mpr ((passes_bounds_of_null absent).mpr ⟨rfl, rfl⟩)
  | outside bounded =>
      rw [passes_notBetween_iff, passes_bounds_of_null absent]
      exact bounded

theorem admitsNull_of_passes (known : op ∈ scalarOperators ++ listOperators)
    (passes : Passes record field op expected) : AdmitsNull op expected := by
  rcases List.mem_append.mp known with scalar | listed
  · have missing : (record.value field).isNull := Value.isNull_iff.mpr absent
    obtain ⟨⟨-, rfl⟩, counts⟩ := (passes_scalar_of_isNull scalar (Or.inl missing)).mp passes
    exact .tie counts
  simp only [listOperators, List.mem_cons, List.not_mem_nil, or_false] at listed
  obtain rfl | rfl | rfl | rfl := listed
  · obtain ⟨items, rfl⟩ := exists_items_of_passes (Or.inl rfl) passes
    obtain ⟨item, inItems, ties⟩ := passes_isIn_iff.mp passes
    obtain rfl := (passes_tie_of_null absent (by decide)).mp ties
    exact .member inItems
  · obtain ⟨items, rfl⟩ := exists_items_of_passes (Or.inr rfl) passes
    exact absurd absent (passes_notIn_iff.mp passes).1
  · obtain ⟨low, high, rfl⟩ := exists_bounds_of_passes (Or.inl rfl) passes
    obtain ⟨rfl, rfl⟩ := (passes_bounds_of_null absent).mp (passes_between_iff.mp passes)
    exact .inside
  · obtain ⟨low, high, rfl⟩ := exists_bounds_of_passes (Or.inr rfl) passes
    rw [passes_notBetween_iff, passes_bounds_of_null absent] at passes
    exact .outside passes

end Absent

/-- **What null passes.** A field that is null or missing passes the comparisons that admit null and
no other, and an operator of one value holds with null only of such a field, if a tie counts. -/
theorem passes_null_iff (record : Record) (field : String) (expected : Value)
    (known : op ∈ scalarOperators ++ listOperators) :
    (record.value field = .null → (Passes record field op expected ↔ AdmitsNull op expected)) ∧
      (op ∈ scalarOperators →
        (Passes record field op .null ↔ record.value field = .null ∧ op ∈ tieOperators)) := by
  constructor
  · intro absent
    exact ⟨admitsNull_of_passes absent known, AdmitsNull.passes absent⟩
  · intro scalar
    rw [passes_scalar_of_isNull scalar (Or.inr rfl)]
    simp only [and_true]

/-- A missing age is above no age, and no identifier is above null. -/
theorem passes_null_above :
    let record : Record := FieldMap.ofList [("id", .int 1)]
    Operator.gt ∈ scalarOperators ++ listOperators ∧ Operator.gt ∈ scalarOperators ∧
      record.value "age" = .null ∧ ¬Passes record "age" .gt (.int 3) ∧
      ¬Passes record "id" .gt .null := by
  intro record
  have known : Operator.gt ∈ scalarOperators ++ listOperators := by decide
  have scalar : Operator.gt ∈ scalarOperators := by decide
  have absent : record.value "age" = .null := rfl
  refine ⟨known, scalar, absent, ?_, ?_⟩
  · intro passes
    cases ((passes_null_iff record "age" (.int 3) known).1 absent).mp passes
  · intro passes
    obtain ⟨-, counts⟩ := ((passes_null_iff record "id" .null known).2 scalar).mp passes
    exact absurd counts (by decide)

/-- A record without an age passes as one with the age null, as one with an age out of a range, and
as one with an age in a list of null. -/
theorem passes_null_without_age :
    let record : Record := .empty
    record.value "age" = .null ∧ Passes record "age" .eq .null ∧
      Passes record "age" .gte .null ∧ Passes record "age" .isIn (.array [.null]) ∧
      Passes record "age" .notBetween (.array [.int 6, .int 9]) :=
  ⟨rfl, rfl, rfl, rfl, rfl⟩

end Keyset.Predicate
