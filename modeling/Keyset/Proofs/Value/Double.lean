import Keyset.Value.Basic

/-! # The order of doubles

A double is a sign with an exponent and a mantissa, or one of the infinities, the zeros and the
NaN. Those that are no NaN are compared like triples of integers (`Keyset.Double.compareFloat_eq`),
and a NaN is comparable with no double (`Keyset.Double.compareFloat_eq_none`).
-/

namespace Keyset.Double

open Std Float.Model

attribute [local instance] lexOrd

/-- The sign, and the exponent and the mantissa, which count downwards below zero. -/
abbrev Place := Int × Int × Int

/-- Where a double stands among those that are no NaN. -/
def place : UnpackedFloat → Place
  | .infinity .negative => (-2, 0, 0)
  | .finite .negative mantissa exponent _ => (-1, -exponent, -mantissa)
  | .notANumber => (0, 0, 0)
  | .zero _ => (0, 0, 0)
  | .finite .positive mantissa exponent _ => (1, exponent, mantissa)
  | .infinity .positive => (2, 0, 0)

/-- How two places compare. -/
def comparePlaces (first second : Place) : Ordering :=
  Ord.compare first second

instance : TransCmp comparePlaces :=
  inferInstanceAs (TransCmp (Ord.compare (α := Place)))

theorem comparePlaces_eq (sign otherSign exponent otherExponent mantissa otherMantissa : Int) :
    comparePlaces (sign, exponent, mantissa) (otherSign, otherExponent, otherMantissa) =
      (Ord.compare sign otherSign).then
        ((Ord.compare exponent otherExponent).then (Ord.compare mantissa otherMantissa)) := rfl

theorem compare_neg (m n : Int) : Ord.compare (-m) (-n) = (Ord.compare m n).swap := by
  rw [Int.compare_swap, Int.compare_eq_ite_lt, Int.compare_eq_ite_lt]
  simp only [Int.neg_lt_neg_iff]

theorem compare_natCast (m n : Nat) : Ord.compare (m : Int) (n : Int) = Ord.compare m n := by
  rw [Int.compare_eq_ite_lt, Nat.compare_eq_ite_lt]
  simp only [Int.ofNat_lt]

section Unpacked

variable {x y : UnpackedFloat}

theorem compare_eq_comparePlaces (number : x.isNaN = false) (alsoNumber : y.isNaN = false) :
    x.compare y = some (comparePlaces (place x) (place y)) := by
  rcases x with ⟨⟨⟩⟩ | _ | ⟨⟨⟩⟩ | ⟨⟨⟩, m, e, _⟩ <;> rcases y with ⟨⟨⟩⟩ | _ | ⟨⟨⟩⟩ | ⟨⟨⟩, n, f, _⟩ <;>
    cases number <;> cases alsoNumber <;> try rfl
  · change _ = some (comparePlaces (-1, -e, -m) (-1, -f, -n))
    rw [comparePlaces_eq, compare_neg e f, compare_neg m n, compare_natCast, ← Ordering.swap_then]
    rfl
  · change _ = some (comparePlaces (1, e, m) (1, f, n))
    rw [comparePlaces_eq, compare_natCast]
    rfl

theorem compare_eq_none (notNumber : x.isNaN = true ∨ y.isNaN = true) : x.compare y = none := by
  rcases x with ⟨⟨⟩⟩ | _ | _ | ⟨⟨⟩, _, _, _⟩ <;> rcases y with _ | _ | _ | ⟨⟨⟩, _, _, _⟩ <;>
    first | rfl | cases notNumber <;> contradiction

theorem compare_swap (x y : UnpackedFloat) : y.compare x = (x.compare y).map Ordering.swap := by
  by_cases numbers : x.isNaN = true ∨ y.isNaN = true
  · rw [compare_eq_none numbers, compare_eq_none numbers.symm]
    rfl
  · simp only [not_or, Bool.not_eq_true] at numbers
    rw [compare_eq_comparePlaces numbers.1 numbers.2, compare_eq_comparePlaces numbers.2 numbers.1,
      Option.map_some, ← OrientedCmp.eq_swap]

end Unpacked

section Floats

variable {x y : Float}

theorem lt_iff : x < y ↔ x.toModel.unpack.compare y.toModel.unpack = some .lt := by
  change decide (x.toModel < y.toModel) = true ↔ _
  rw [decide_eq_true_iff]
  exact beq_iff_eq

theorem beq_iff : (x == y) = true ↔ x.toModel.unpack.compare y.toModel.unpack = some .eq := by
  change (x.toModel.unpack.compare y.toModel.unpack == some .eq) = true ↔ _
  exact beq_iff_eq

theorem compareFloat_eq_compare (x y : Float) :
    Value.compareFloat x y = x.toModel.unpack.compare y.toModel.unpack := by
  have swapped := compare_swap x.toModel.unpack y.toModel.unpack
  unfold Value.compareFloat
  simp only [lt_iff, beq_iff, swapped]
  cases x.toModel.unpack.compare y.toModel.unpack with
  | none => rfl
  | some order => cases order <;> rfl

/-- The order of doubles by their places. -/
def compareNumbers (x y : Float) : Ordering :=
  comparePlaces (place x.toModel.unpack) (place y.toModel.unpack)

instance : TransCmp compareNumbers :=
  inferInstanceAs (TransCmp (compareOn fun x : Float => place x.toModel.unpack))

/-- Doubles that are no NaN are compared by their places. -/
theorem compareFloat_eq (number : x.isNaN = false) (alsoNumber : y.isNaN = false) :
    Value.compareFloat x y = some (compareNumbers x y) := by
  rw [compareFloat_eq_compare]
  exact compare_eq_comparePlaces number alsoNumber

theorem compareFloat_eq_none (notNumber : x.isNaN = true ∨ y.isNaN = true) :
    Value.compareFloat x y = none := by
  rw [compareFloat_eq_compare]
  exact compare_eq_none notNumber

end Floats

end Keyset.Double
