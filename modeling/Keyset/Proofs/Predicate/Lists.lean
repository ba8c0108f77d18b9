import Keyset.Proofs.Predicate.Comparison
import Keyset.Proofs.Value.Comparable

/-! # Lists and bounds in terms of single values

Membership in a list is equality with some item, and to be within two bounds is to compare with each
of them. Two values without an order pass neither an operator nor its opposite. But to be outside a
list or bounds is not to be inside, so a value is outside also by what it has no order with
(`Keyset.Predicate.passes_lists_iff`).
-/

namespace Keyset.Predicate

/-- The operator that holds in the other orders. -/
def opposite : Operator → Operator
  | .eq => .ne
  | .ne => .eq
  | .gt => .lte
  | .gte => .lt
  | .lt => .gte
  | .lte => .gt
  | op => op

variable {record : Record} {field : String} {op : Operator} {expected : Value}

theorem opposite_mem : ∀ op ∈ scalarOperators, opposite op ∈ scalarOperators := by decide

theorem mem_orders_opposite_iff (scalar : op ∈ scalarOperators) (order : Ordering) :
    order ∈ orders (opposite op) ↔ order ∉ orders op := by
  revert op
  cases order <;> decide

/-- A comparison fails iff its opposite holds or the two values have no order. -/
theorem not_passes_iff (scalar : op ∈ scalarOperators) :
    ¬Passes record field op expected ↔
      Passes record field (opposite op) expected ∨
        (record.value field).Incomparable expected := by
  rw [passes_scalar_iff scalar, passes_scalar_iff (opposite_mem op scalar),
    ← Value.compare_eq_none_iff]
  cases (record.value field).compare expected with
  | none => simp
  | some order => simp [mem_orders_opposite_iff scalar]

/-- **What lists and bounds expand to.** For a field that is not null, membership and two bounds are
put together from the operators of one value. Their negations are put together from the opposite
operators and from what the value cannot be compared with. -/
theorem passes_lists_iff (present : record.value field ≠ .null) (items : List Value)
    (low high : Value) :
    (Passes record field .isIn (.array items) ↔
      ∃ item ∈ items, Passes record field .eq item) ∧
    (Passes record field .notIn (.array items) ↔
      ∀ item ∈ items, Passes record field .ne item ∨
        (record.value field).Incomparable item) ∧
    (Passes record field .between (.array [low, high]) ↔
      Passes record field .gte low ∧ Passes record field .lte high) ∧
    (Passes record field .notBetween (.array [low, high]) ↔
      (Passes record field .lt low ∨ (record.value field).Incomparable low) ∨
        (Passes record field .gt high ∨ (record.value field).Incomparable high)) := by
  refine ⟨passes_isIn_iff, ?_, passes_between_iff, ?_⟩
  · rw [passes_notIn_iff, and_iff_right present]
    apply forall₂_congr
    intro item _
    exact not_passes_iff (by decide)
  · rw [passes_notBetween_iff, not_and_or]
    exact or_congr (not_passes_iff (by decide)) (not_passes_iff (by decide))

/-- A present identifier is in a list by one item, and out of bounds by one bound. -/
theorem passes_lists_five :
    let record : Record := FieldMap.ofList [("id", .int 5)]
    record.value "id" ≠ .null ∧ Passes record "id" .isIn (.array [.null, .int 5]) ∧
      ¬Passes record "id" .notIn (.array [.string "a", .int 5]) ∧
      Passes record "id" .notBetween (.array [.int 6, .int 9]) := by
  intro record
  have present : record.value "id" ≠ .null := nofun
  obtain ⟨isIn, -⟩ := passes_lists_iff present [.null, .int 5] .null .null
  obtain ⟨-, notIn, -⟩ := passes_lists_iff present [.string "a", .int 5] .null .null
  obtain ⟨-, -, -, outside⟩ := passes_lists_iff present [] (.int 6) (.int 9)
  have equal : Passes record "id" .eq (.int 5) := rfl
  refine ⟨present, isIn.mpr ⟨.int 5, by simp, equal⟩, ?_, outside.mpr (Or.inl (Or.inl rfl))⟩
  intro passes
  have fails : ¬Passes record "id" .eq (.int 5) :=
    (not_passes_iff (by decide)).mpr (notIn.mp passes (.int 5) (by simp))
  exact fails equal

/-- An identifier is outside a list of null and outside bounds that start at null, while no
comparison with null holds. -/
theorem passes_lists_incomparable :
    let record : Record := FieldMap.ofList [("id", .int 5)]
    record.value "id" ≠ .null ∧
      Passes record "id" .notIn (.array [.null]) ∧ ¬Passes record "id" .ne .null ∧
      Passes record "id" .notIn (.array [.string "a"]) ∧ ¬Passes record "id" .ne (.string "a") ∧
      Passes record "id" .notBetween (.array [.null, .int 9]) ∧
      ¬Passes record "id" .lt .null ∧ ¬Passes record "id" .gt (.int 9) :=
  ⟨nofun, rfl, nofun, rfl, nofun, rfl, nofun, nofun⟩

end Keyset.Predicate
