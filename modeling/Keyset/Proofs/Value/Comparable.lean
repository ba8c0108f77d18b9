import Keyset.Proofs.Value.Transitivity
import Mathlib.Tactic.ByContra

/-! # Which values are comparable

Comparing two values gives no order iff their blocks differ, both are lists, one of two numbers is a
NaN, or a text beside an instant does not read as one (`Keyset.Value.compare_eq_none_iff`).
-/

namespace Keyset.Value

variable {a b : Value}

/-- Two values that have no order. -/
inductive Incomparable : Value → Value → Prop
  | blocks {a b : Value} (apart : a.block ≠ b.block) : Incomparable a b
  | lists (items others : List Value) : Incomparable (array items) (array others)
  | nan {a b : Value} {x y : Float} (number : a.double? = some x)
      (alsoNumber : b.double? = some y) (isNaN : x.isNaN = true ∨ y.isNaN = true) :
      Incomparable a b
  | text {s : String} {t : Time.Instant} (unread : Time.Instant.ofText? s = none) :
      Incomparable (string s) (timestamp t)
  | instant {s : String} {t : Time.Instant} (unread : Time.Instant.ofText? s = none) :
      Incomparable (timestamp t) (string s)

theorem compare_of_block_ne (apart : a.block ≠ b.block) : a.compare b = none := by
  cases a <;> cases b <;> first | rfl | exact absurd rfl apart

theorem compareFloat_eq_none_iff {x y : Float} :
    compareFloat x y = none ↔ x.isNaN = true ∨ y.isNaN = true := by
  constructor
  · intro unordered
    by_contra numbers
    simp only [not_or, Bool.not_eq_true] at numbers
    rw [Double.compareFloat_eq numbers.1 numbers.2] at unordered
    cases unordered
  · exact Double.compareFloat_eq_none

/-- Two whole numbers have an order, and any other two numbers if neither is a NaN. -/
theorem compare_numbers_eq_none_iff {x y : Float} (number : a.double? = some x)
    (alsoNumber : b.double? = some y) :
    a.compare b = none ↔ x.isNaN = true ∨ y.isNaN = true := by
  have whole (n : Int64) : ¬(floatOfInt n).isNaN = true := by
    rw [Double.isNaN_floatOfInt]
    exact Bool.false_ne_true
  cases a <;> cases number <;> cases b <;> cases alsoNumber
  case int.refl.int.refl m n =>
    exact iff_of_false (Option.some_ne_none _) (not_or.mpr ⟨whole m, whole n⟩)
  all_goals exact compareFloat_eq_none_iff

theorem incomparable_of_texts (first : a.block = 2) (second : b.block = 2)
    (unordered : a.compare b = none) : Incomparable a b := by
  cases a <;> cases first <;> cases b <;> cases second
  case string.refl.timestamp.refl s t => exact .text (Option.map_eq_none_iff.mp unordered)
  case timestamp.refl.string.refl t s => exact .instant (Option.map_eq_none_iff.mp unordered)
  all_goals cases unordered

/-- **Which values have no order.** -/
theorem compare_eq_none_iff : a.compare b = none ↔ Incomparable a b := by
  constructor
  · intro unordered
    by_cases same : a.block = b.block
    · by_cases numbers : a.block = 1
      · obtain ⟨x, number⟩ := exists_double numbers
        obtain ⟨y, alsoNumber⟩ := exists_double (same.symm.trans numbers)
        apply Incomparable.nan number alsoNumber
        exact (compare_numbers_eq_none_iff number alsoNumber).mp unordered
      by_cases texts : a.block = 2
      · exact incomparable_of_texts texts (same.symm.trans texts) unordered
      cases a <;> cases b <;> cases same
      case array.array.refl items others => exact .lists items others
      all_goals first | exact absurd rfl numbers | exact absurd rfl texts | cases unordered
    · exact .blocks same
  · intro clash
    cases clash with
    | blocks apart => exact compare_of_block_ne apart
    | lists => rfl
    | nan number alsoNumber isNaN => exact (compare_numbers_eq_none_iff number alsoNumber).mpr isNaN
    | text unread => rw [compare, unread, Option.map_none]
    | instant unread => rw [compare, unread, Option.map_none]

end Keyset.Value
