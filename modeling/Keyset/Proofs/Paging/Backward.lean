import Keyset.Proofs.Cursor.Selection

/-! # The page before a cursor

A page before a cursor is cut off the records before it in the reversed order, so that it holds
those next to the cursor, and is then turned round. Where no two records tie, sorting in the
reversed order turns the sorted list round (`Keyset.Sorting.Ranked.sort_backward`), so the page is
the stretch of the sorted list that ends at the cursor (`Keyset.page_before_cursor`).
-/

namespace Keyset

namespace Sorting

variable {order : Order} {first second : Record}

theorem Placed.backward (placed : Placed order.keys first second) :
    Placed (PageDirection.backward.keys order) first second := by
  intro key member
  rw [PageDirection.keys_eq_map] at member
  obtain ⟨entry, inOrder, rfl⟩ := List.mem_map.mp member
  rw [PageDirection.key_field]
  exact placed (SortKey.ofEntry entry) (List.mem_map.mpr ⟨entry, inOrder, rfl⟩)

namespace Ranked

variable {records : List Record}

theorem backward (ranked : Ranked order.keys records) :
    Ranked (PageDirection.backward.keys order) records where
  placed first inFirst second inSecond := (ranked.placed first inFirst second inSecond).backward
  untied first inFirst second inSecond tie := by
    rw [compareRecords_backward] at tie
    exact (ranked.untied second inSecond first inFirst tie).symm
  distinct := ranked.distinct

/-- Without ties, the order of the sorted list is reversed with the directions. -/
theorem sort_backward (ranked : Ranked order.keys records) :
    sort (PageDirection.backward.keys order) records = (sort order.keys records).reverse := by
  have turned : (sort order.keys records).reverse.Perm records :=
    (List.reverse_perm _).trans (perm_sort order.keys records)
  have falling : (sort order.keys records).reverse.Pairwise fun earlier later =>
      isBefore (PageDirection.backward.keys order) earlier later = true := by
    rw [List.pairwise_reverse]
    apply ranked.pairwise_sort.imp
    intro earlier later before
    rwa [isBefore_backward]
  exact (ranked.backward.perm turned).sort_eq_of_perm turned.symm falling

end Ranked

end Sorting

open Sorting

section Backward

variable {schema : String → Value.Kind} {order : Order} {idField : String}

/-- The first records in the reversed order, turned round, are the last ones of the sorted list. -/
theorem reverse_truncate_backward {sorted shuffled : List Record} (limit : Nat)
    (ranked : Ranked order.keys sorted) (same : shuffled.Perm sorted)
    (increasing : sorted.Pairwise fun earlier later =>
      isBefore order.keys earlier later = true) :
    (truncate limit (sort (PageDirection.backward.keys order) shuffled)).reverse =
      sorted.drop (sorted.length - limit) := by
  rw [(ranked.perm same).sort_backward, ranked.sort_eq_of_perm same increasing, truncate,
    List.reverse_take, List.reverse_reverse, List.length_reverse]

/-- **The page before a cursor.** In whatever order a store holds the records, and in whatever
order those before a record of the sorted list are found: sorted in the reversed order, cut off at
a limit and turned round, they are the records of the sorted list next before that record. -/
theorem page_before_cursor {records : List Record} (named : idField ≠ "")
    (ordered : Order.hasField order idField)
    (pageable : Pageable schema order idField records) :
    let all := sort order.keys records
    ∀ index (_ : index < all.length) (limit : Nat) (store : List Record), store.Perm records →
      ∃ hits, (beforeCursor order all[index] idField false).select store = .ok hits ∧
        ∀ found : List Record, found.Perm hits →
          (truncate limit (sort (Order.reversed order).keys found)).reverse =
            (all.take index).drop (index - limit) := by
  intro all index present limit store same
  have sorted : all.Perm records := perm_sort order.keys records
  have increasing := (pageable.ranked ordered).pairwise_sort
  have split : all.take index ++ all[index] :: all.drop (index + 1) = all := by
    rw [List.getElem_cons_drop, List.take_append_drop]
  obtain ⟨-, before, -, -⟩ := @select_around schema order idField (all.take index)
    (all.drop (index + 1)) all[index] named ordered (by rw [split]; exact pageable.perm sorted)
    (by rwa [split])
  rw [split] at before
  obtain ⟨hits, selected, sameHits⟩ := Predicate.select_perm (same.trans sorted.symm) before
  refine ⟨hits, selected, fun found sameFound => ?_⟩
  have part : (all.take index).Sublist all := List.take_sublist index all
  have ranked := ((pageable.ranked ordered).perm sorted).sublist part
  have length : (all.take index).length = index := List.length_take_of_le (Nat.le_of_lt present)
  have page := reverse_truncate_backward limit ranked (sameFound.trans sameHits)
    (increasing.sublist part)
  rwa [length] at page

/-- Two records tie at the first level, the store is out of order, and a page of two leaves out
the first of the three records before the cursor. -/
theorem page_before_last :
    let person (id age : Int64) : Record := FieldMap.ofList [("id", .int id), ("age", .int age)]
    let order : Order := [⟨"age", .desc⟩, ⟨"id", .asc⟩]
    let records := [person 2 25, person 4 41, person 3 30, person 1 30]
    let store := [person 1 30, person 3 30, person 4 41, person 2 25]
    let all := sort order.keys records
    "id" ≠ "" ∧ Order.hasField order "id" ∧ Pageable (fun _ => .int) order "id" records ∧
      store.Perm records ∧ ∃ _ : 3 < all.length,
        ∃ hits, (beforeCursor order all[3] "id" false).select store = .ok hits ∧
          (truncate 2 (sort (Order.reversed order).keys hits.reverse)).reverse =
            (all.take 3).drop 1 := by
  intro person order records store all
  have named : "id" ≠ "" := by decide
  have ordered : Order.hasField order "id" := by decide
  have pageable : Pageable (fun _ => .int) order "id" records :=
    { conforms := by
        unfold Record.Conforms
        decide
      distinct := by
        change List.Nodup [Value.int 2, .int 4, .int 3, .int 1]
        simp }
  have same : store.Perm records := List.reverse_perm records
  have present : 3 < all.length := by
    rw [(perm_sort order.keys records).length_eq]
    decide
  obtain ⟨hits, selected, page⟩ :=
    page_before_cursor named ordered pageable 3 present 2 store same
  exact ⟨named, ordered, pageable, same, present, hits, selected,
    page hits.reverse (List.reverse_perm hits)⟩

end Backward

end Keyset
