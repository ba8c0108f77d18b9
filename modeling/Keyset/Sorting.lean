import Keyset.Record
import Keyset.SortKey

/-! # Sorting records

Records are sorted by keys, the first key that tells two records apart deciding. The sort is
stable: each record is put behind the sorted records that precede it in the input, and moves
forward only past those that it lies strictly before (`Keyset.Sorting.sort`).
-/

namespace Keyset.Sorting

/-- How two values compare in a direction. -/
def compareValues (direction : Direction) (first second : Value) : Ordering :=
  match direction with
  | .asc => first.sortCompare second
  | .desc => second.sortCompare first

/-- How two records compare by keys. -/
def compareRecords (keys : List SortKey) (first second : Record) : Ordering :=
  match keys with
  | [] => .eq
  | key :: rest =>
    (compareValues key.direction (first.value key.field) (second.value key.field)).then
      (compareRecords rest first second)

/-- Whether a record lies strictly before another. -/
def isBefore (keys : List SortKey) (first second : Record) : Bool :=
  compareRecords keys first second == .lt

/-- A record put into a list that is sorted from the last record to the first. -/
def place (keys : List SortKey) (record : Record) : List Record → List Record
  | [] => [record]
  | last :: earlier =>
    if isBefore keys record last then last :: place keys record earlier
    else record :: last :: earlier

/-- The records in the order of the keys. -/
def sort (keys : List SortKey) (records : List Record) : List Record :=
  (records.foldl (fun sorted record => place keys record sorted) []).reverse

/-- The records of a page of a size. -/
def truncate (limit : Nat) (records : List Record) : List Record :=
  records.take limit

theorem perm_place (keys : List SortKey) (record : Record) (sorted : List Record) :
    (place keys record sorted).Perm (record :: sorted) := by
  induction sorted with
  | nil => exact List.Perm.refl _
  | cons last earlier ih =>
      simp only [place]
      split
      · exact (List.Perm.cons last ih).trans (List.Perm.swap record last earlier)
      · exact List.Perm.refl _

/-- Placing a record makes no difference to which records there are, with others still to come. -/
theorem perm_append_place (keys : List SortKey) (record : Record) (rest sorted : List Record) :
    (rest ++ place keys record sorted).Perm (record :: rest ++ sorted) :=
  ((perm_place keys record sorted).append_left rest).trans List.perm_middle

theorem perm_foldl_place (keys : List SortKey) (rest sorted : List Record) :
    (rest.foldl (fun sorted record => place keys record sorted) sorted).Perm (rest ++ sorted) := by
  induction rest generalizing sorted with
  | nil => exact List.Perm.refl sorted
  | cons record rest ih => exact (ih _).trans (perm_append_place keys record rest sorted)

/-- Sorting loses and invents no record. -/
theorem perm_sort (keys : List SortKey) (records : List Record) :
    (sort keys records).Perm records := by
  have all := perm_foldl_place keys records []
  rw [List.append_nil] at all
  exact (List.reverse_perm _).trans all

end Keyset.Sorting
