import Keyset.Proofs.Value.Order
import Keyset.Sorting

/-! # Sorted records

Records whose values sorting does not mix are compared by the places of their values, level by
level, so that their comparison is a linear preorder (`Keyset.Sorting.compareRecords_eq_places`).
Sorting them leaves no record behind one that it lies strictly before
(`Keyset.Sorting.pairwise_sort`). Where no two records tie the result is strictly increasing
(`Keyset.Sorting.Ranked.pairwise_sort`), and it is the only list of these records that is
(`Keyset.Sorting.Ranked.eq_of_perm`).
-/

namespace Keyset.Sorting

open Std

/-- Sorting by the keys mixes no values of the two records. -/
def Placed (keys : List SortKey) (first second : Record) : Prop :=
  ∀ key ∈ keys, (first.value key.field).mixes (second.value key.field) = false

theorem Placed.symm {keys : List SortKey} {first second : Record}
    (placed : Placed keys first second) : Placed keys second first := fun key member =>
  (Value.mixes_comm _ _).trans (placed key member)

/-- The order of records by the place of the value at one key. -/
def compareKey (key : SortKey) (first second : Record) : Ordering :=
  match key.direction with
  | .asc => (first.value key.field).comparePlaces (second.value key.field)
  | .desc => (second.value key.field).comparePlaces (first.value key.field)

/-- The lexicographic order of records by places. -/
def comparePlaces : List SortKey → Record → Record → Ordering
  | [], _, _ => .eq
  | key :: rest, first, second =>
    (compareKey key first second).then (comparePlaces rest first second)

instance (key : SortKey) : TransCmp (compareKey key) := by
  obtain ⟨field, direction⟩ := key
  have ascending : TransCmp fun first second : Record =>
      (first.value field).comparePlaces (second.value field) :=
    { eq_swap := OrientedCmp.eq_swap
      isLE_trans := TransCmp.isLE_trans }
  cases direction with
  | asc => exact ascending
  | desc => exact @TransCmp.opposite _ _ ascending

instance (keys : List SortKey) : TransCmp (comparePlaces keys) := by
  induction keys with
  | nil => exact { eq_swap := rfl, isLE_trans := fun _ _ => rfl }
  | cons key rest ih =>
      exact inferInstanceAs (TransCmp (compareLex (compareKey key) (comparePlaces rest)))

variable {keys : List SortKey} {first second third : Record}

theorem compareRecords_eq_places (placed : Placed keys first second) :
    compareRecords keys first second = comparePlaces keys first second := by
  induction keys with
  | nil => rfl
  | cons key rest ih =>
      obtain ⟨atKey, atRest⟩ := List.forall_mem_cons.mp placed
      simp only [compareRecords, comparePlaces, ih atRest]
      congr 1
      simp only [compareValues, compareKey]
      cases key.direction with
      | asc => exact Value.sortCompare_eq_place atKey
      | desc => exact Value.sortCompare_eq_place ((Value.mixes_comm _ _).trans atKey)

/-- Comparing the records the other way round swaps the answer. -/
theorem compareRecords_swap (placed : Placed keys first second) :
    compareRecords keys second first = (compareRecords keys first second).swap := by
  rw [compareRecords_eq_places placed, compareRecords_eq_places placed.symm]
  exact OrientedCmp.eq_swap

theorem isBefore_iff : isBefore keys first second = true ↔ compareRecords keys first second = .lt :=
  beq_iff_eq

theorem not_isBefore_of_isBefore (placed : Placed keys first second)
    (before : isBefore keys first second = true) : isBefore keys second first = false := by
  have less := isBefore_iff.mp before
  simp only [isBefore, compareRecords_swap placed, less]
  rfl

theorem not_isBefore_iff (placed : Placed keys first second) :
    isBefore keys second first = false ↔ (compareRecords keys first second).isLE := by
  simp only [isBefore, compareRecords_swap placed]
  cases compareRecords keys first second <;> decide

theorem isBefore_trans (firstSecond : Placed keys first second)
    (secondThird : Placed keys second third) (firstThird : Placed keys first third)
    (before : isBefore keys first second = true) (further : isBefore keys second third = true) :
    isBefore keys first third = true := by
  rw [isBefore_iff, compareRecords_eq_places firstSecond] at before
  rw [isBefore_iff, compareRecords_eq_places secondThird] at further
  rw [isBefore_iff, compareRecords_eq_places firstThird]
  exact TransCmp.lt_trans before further

theorem not_isBefore_trans (firstSecond : Placed keys first second)
    (secondThird : Placed keys second third) (firstThird : Placed keys first third)
    (atMost : isBefore keys second first = false) (further : isBefore keys third second = false) :
    isBefore keys third first = false := by
  rw [not_isBefore_iff firstSecond, compareRecords_eq_places firstSecond] at atMost
  rw [not_isBefore_iff secondThird, compareRecords_eq_places secondThird] at further
  rw [not_isBefore_iff firstThird, compareRecords_eq_places firstThird]
  exact TransCmp.isLE_trans atMost further

/-! ## The sorted list -/

/-- Sorting the records mixes no values. -/
def AllPlaced (keys : List SortKey) (records : List Record) : Prop :=
  ∀ first ∈ records, ∀ second ∈ records, Placed keys first second

theorem AllPlaced.subset {records others : List Record} (placed : AllPlaced keys records)
    (subset : others ⊆ records) : AllPlaced keys others := fun first inFirst second inSecond =>
  placed first (subset inFirst) second (subset inSecond)

theorem pairwise_place {record : Record} {sorted : List Record}
    (placed : AllPlaced keys (record :: sorted))
    (ordered : sorted.Pairwise fun later earlier => isBefore keys later earlier = false) :
    (place keys record sorted).Pairwise fun later earlier =>
      isBefore keys later earlier = false := by
  induction sorted with
  | nil => exact List.pairwise_singleton _ _
  | cons last earlier ih =>
      obtain ⟨lastAfter, rest⟩ := List.pairwise_cons.mp ordered
      have inner : AllPlaced keys (record :: earlier) :=
        placed.subset (List.cons_subset_cons record (List.subset_cons_self _ _))
      simp only [place]
      split
      next before =>
        refine List.pairwise_cons.mpr ⟨fun other member => ?_, ih inner rest⟩
        rcases List.mem_cons.mp ((perm_place keys record earlier).mem_iff.mp member) with
          same | inEarlier
        · rw [same]
          exact not_isBefore_of_isBefore (placed record (by simp) last (by simp)) before
        · exact lastAfter other inEarlier
      next notBefore =>
        refine List.pairwise_cons.mpr ⟨fun other member => ?_, ordered⟩
        rw [Bool.not_eq_true] at notBefore
        rcases List.mem_cons.mp member with same | inEarlier
        · rw [same]
          exact notBefore
        · have inRest : other ∈ record :: last :: earlier := by simp [inEarlier]
          exact not_isBefore_trans (placed other inRest last (by simp))
            (placed last (by simp) record (by simp)) (placed other inRest record (by simp))
            (lastAfter other inEarlier) notBefore

theorem pairwise_foldl_place {rest sorted : List Record} (placed : AllPlaced keys (rest ++ sorted))
    (ordered : sorted.Pairwise fun later earlier => isBefore keys later earlier = false) :
    (rest.foldl (fun sorted record => place keys record sorted) sorted).Pairwise
      fun later earlier => isBefore keys later earlier = false := by
  induction rest generalizing sorted with
  | nil => exact ordered
  | cons record rest ih =>
      have front : record :: sorted ⊆ record :: rest ++ sorted :=
        List.cons_subset_cons record (List.subset_append_right rest sorted)
      exact ih (placed.subset (perm_append_place keys record rest sorted).subset)
        (pairwise_place (placed.subset front) ordered)

/-- No record stands behind one that it lies strictly before. -/
theorem pairwise_sort {records : List Record} (placed : AllPlaced keys records) :
    (sort keys records).Pairwise fun earlier later => isBefore keys later earlier = false := by
  rw [sort, List.pairwise_reverse]
  exact pairwise_foldl_place (by rwa [List.append_nil]) List.Pairwise.nil

/-! ## Records without ties -/

/-- Different records that the keys put in a strict order. -/
structure Ranked (keys : List SortKey) (records : List Record) : Prop where
  placed : AllPlaced keys records
  untied : ∀ first ∈ records, ∀ second ∈ records,
    compareRecords keys first second = .eq → first = second
  distinct : records.Nodup

namespace Ranked

variable {records others : List Record}

theorem perm (ranked : Ranked keys records) (same : others.Perm records) : Ranked keys others where
  placed := ranked.placed.subset same.subset
  untied first inFirst second inSecond :=
    ranked.untied first (same.subset inFirst) second (same.subset inSecond)
  distinct := same.nodup_iff.mpr ranked.distinct

theorem sublist (ranked : Ranked keys records) (part : others.Sublist records) :
    Ranked keys others where
  placed := ranked.placed.subset part.subset
  untied first inFirst second inSecond :=
    ranked.untied first (part.subset inFirst) second (part.subset inSecond)
  distinct := ranked.distinct.sublist part

/-- Sorting records without ties puts them into strictly increasing order. -/
theorem pairwise_sort (ranked : Ranked keys records) :
    (sort keys records).Pairwise fun earlier later => isBefore keys earlier later = true := by
  have sorted := ranked.perm (perm_sort keys records)
  refine ((Sorting.pairwise_sort ranked.placed).and sorted.distinct).imp_of_mem ?_
  rintro earlier later inEarlier inLater ⟨notAfter, different⟩
  have untied := sorted.untied earlier inEarlier later inLater
  rw [not_isBefore_iff (sorted.placed earlier inEarlier later inLater)] at notAfter
  rw [isBefore_iff]
  cases compared : compareRecords keys earlier later with
  | lt => rfl
  | eq => exact absurd (untied compared) different
  | gt => rw [compared] at notAfter; contradiction

/-- Records without ties have one strictly increasing order. -/
theorem eq_of_perm (ranked : Ranked keys records) (same : others.Perm records)
    (increasing : records.Pairwise fun earlier later => isBefore keys earlier later = true)
    (othersIncreasing : others.Pairwise fun earlier later => isBefore keys earlier later = true) :
    others = records := by
  refine List.Perm.eq_of_pairwise ?_ othersIncreasing increasing same
  intro first second inFirst inSecond before after
  have placed := ranked.placed first (same.subset inFirst) second inSecond
  rw [not_isBefore_of_isBefore placed before] at after
  contradiction

theorem sort_eq_of_perm (ranked : Ranked keys records) (same : others.Perm records)
    (increasing : records.Pairwise fun earlier later => isBefore keys earlier later = true) :
    sort keys others = records :=
  ranked.eq_of_perm ((perm_sort keys others).trans same) increasing
    (ranked.perm same).pairwise_sort

end Ranked

end Keyset.Sorting
