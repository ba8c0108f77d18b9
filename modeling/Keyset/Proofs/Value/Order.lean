import Keyset.Value.Basic

/-! # The order of values

Null compares with null alone (`Keyset.Value.compare_of_isNull`), and comparing values of another
kind is comparing their contents. Sorting puts the kinds after one another, so its order is the
lexicographic order of a tuple that holds the rank of the kind and the content
(`Keyset.Value.sortCompare_eq_place`). This fails only for doubles and between texts and timestamps,
where a text may read as an instant (`Keyset.Value.mixes`).
-/

namespace Keyset

namespace Value

open Std

attribute [local instance] lexOrd

/-! ## Null -/

theorem isNull_iff {value : Value} : value.isNull = true ↔ value = null := by
  cases value <;> simp [isNull]

/-- Only null compares with null, and as equal. -/
theorem compare_null (value : Value) :
    value.compare null = (if value.isNull then some .eq else none) ∧
      null.compare value = if value.isNull then some .eq else none := by
  cases value <;> exact ⟨rfl, rfl⟩

/-- A comparison in which one value is null finds equality, of two nulls, or nothing. -/
theorem compare_of_isNull {first second : Value} (missing : first.isNull ∨ second.isNull) :
    first.compare second = if first.isNull && second.isNull then some .eq else none := by
  rcases missing with noFirst | noSecond
  · obtain rfl := isNull_iff.mp noFirst
    rw [(compare_null second).2]
    rfl
  · obtain rfl := isNull_iff.mp noSecond
    have none : null.isNull = true := rfl
    rw [(compare_null first).1, none, Bool.and_true]

/-! ## Places -/

/-- The kinds of values whose comparison is an order of its own. -/
inductive Kind
  | bool
  | int
  | string
  | timestamp
deriving DecidableEq

/-- The kind of a value; null, doubles and lists have none. -/
def kind? : Value → Option Kind
  | bool _ => some .bool
  | int _ => some .int
  | string _ => some .string
  | timestamp _ => some .timestamp
  | _ => none

/-- The rank of the kind, and the content at the place of the kind. -/
abbrev Place := Nat × Bool × Int64 × String × Int × Nat

/-- Where a value stands among values that sorting does not mix. -/
def place : Value → Place
  | bool b => (0, b, 0, "", 0, 0)
  | int n => (1, false, n, "", 0, 0)
  | float _ => (1, false, 0, "", 0, 0)
  | string s => (2, false, 0, s, 0, 0)
  | timestamp t => (3, false, 0, "", t.seconds, t.nanos)
  | array _ => (4, false, 0, "", 0, 0)
  | null => (5, false, 0, "", 0, 0)

/-- Sorting compares the two values by other means than the place of their kinds and contents. -/
def mixes : Value → Value → Bool
  | float _, _ => true
  | _, float _ => true
  | string _, timestamp _ => true
  | timestamp _, string _ => true
  | _, _ => false

/-- The order of places. -/
def comparePlaces (first second : Value) : Ordering :=
  Ord.compare first.place second.place

instance : TransCmp comparePlaces :=
  inferInstanceAs (TransCmp (compareOn place))

theorem place_fst (value : Value) : value.place.1 = value.rank := by
  cases value <;> rfl

private theorem compare_pair {α β : Type} [Ord α] [Ord β] (first second : α × β) :
    Ord.compare first second =
      (Ord.compare first.1 second.1).then (Ord.compare first.2 second.2) := rfl

theorem compare_eq_none_of_rank_ne {first second : Value} (apart : mixes first second = false)
    (ranks : first.rank ≠ second.rank) : first.compare second = none := by
  cases first <;> cases second <;> cases apart <;> first | rfl | exact absurd rfl ranks

/-- Values that sorting does not mix are sorted by their places. -/
theorem sortCompare_eq_place {first second : Value} (apart : mixes first second = false) :
    first.sortCompare second = first.comparePlaces second := by
  by_cases ranks : first.rank = second.rank
  · cases first <;> cases second <;> cases apart <;> cases ranks <;>
      simp [sortCompare, compare, comparePlaces, place, rank, compare_pair, Time.Instant.compare]
  · have decides : Ord.compare first.rank second.rank ≠ .eq := fun same =>
      ranks (LawfulEqOrd.eq_of_compare same)
    rw [sortCompare, compare_eq_none_of_rank_ne apart ranks, comparePlaces, compare_pair, place_fst,
      place_fst]
    cases ordered : Ord.compare first.rank second.rank with
    | lt => rfl
    | eq => exact absurd ordered decides
    | gt => rfl

theorem mixes_comm (first second : Value) : mixes first second = mixes second first := by
  cases first <;> cases second <;> rfl

theorem sortCompare_swap {first second : Value} (apart : mixes first second = false) :
    second.sortCompare first = (first.sortCompare second).swap := by
  rw [sortCompare_eq_place apart, sortCompare_eq_place ((mixes_comm second first).trans apart)]
  exact OrientedCmp.eq_swap

variable {kind : Kind} {first second : Value}

theorem mixes_of_kind (firstKind : first.kind? = some kind)
    (secondKind : second.kind? = some kind) : mixes first second = false := by
  cases first <;> cases firstKind <;> cases second <;> cases secondKind <;> rfl

/-- Values of one kind are comparable, and sorted by their comparison. -/
theorem compare_of_kind (firstKind : first.kind? = some kind)
    (secondKind : second.kind? = some kind) :
    first.compare second = some (first.sortCompare second) := by
  cases first <;> cases firstKind <;> cases second <;> cases secondKind <;> rfl

theorem place_injective_of_kind (firstKind : first.kind? = some kind)
    (secondKind : second.kind? = some kind) (places : first.place = second.place) :
    first = second := by
  cases first <;> cases firstKind <;> cases second <;> cases secondKind <;>
    simp only [place, Prod.mk.injEq] at places
  case bool => rw [places.2.1]
  case int => rw [places.2.2.1]
  case string => rw [places.2.2.2.1]
  case timestamp s t =>
    obtain ⟨-, -, -, -, seconds, nanos⟩ := places
    cases s
    cases t
    cases seconds
    cases nanos
    rfl

/-- Values of one kind tie only if they are equal. -/
theorem eq_of_sortCompare_eq (firstKind : first.kind? = some kind)
    (secondKind : second.kind? = some kind) (tie : first.sortCompare second = .eq) :
    first = second := by
  rw [sortCompare_eq_place (mixes_of_kind firstKind secondKind)] at tie
  exact place_injective_of_kind firstKind secondKind (LawfulEqOrd.eq_of_compare tie)

end Value

end Keyset
