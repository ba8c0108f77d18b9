import Keyset.Proofs.Paging.Loop

/-! # Paging through the records of a filter

While the store stays as it is, a run gives out the records that satisfy a filter, sorted, in full
pages up to the last one (`Keyset.Paging.run_filtered`). What carries the induction is that the
records given out so far and those that are left make up the sorted list.
-/

namespace Keyset.Paging

open Sorting

variable {schema : String → Value.Kind} {paging : Paging}

/-- How many pages it takes to give out so many records. -/
def pageCount (paging : Paging) (count : Nat) : Nat :=
  max 1 ((count + paging.limit - 1) / paging.limit)

theorem pageCount_of_le (usable : paging.Usable schema) {count : Nat}
    (fits : count ≤ paging.limit) : paging.pageCount count = 1 := by
  have limited := usable.limited
  have atMost : (count + paging.limit - 1) / paging.limit < 2 := by
    rw [Nat.div_lt_iff_lt_mul limited]
    omega
  rw [pageCount]
  omega

theorem pageCount_of_lt (usable : paging.Usable schema) {count : Nat}
    (more : paging.limit < count) :
    paging.pageCount count = paging.pageCount (count - paging.limit) + 1 := by
  have limited := usable.limited
  have further : (count + paging.limit - 1) / paging.limit =
      (count - paging.limit + paging.limit - 1) / paging.limit + 1 := by
    rw [← Nat.add_div_right _ limited]
    congr 1
    omega
  have nonempty : 1 ≤ (count - paging.limit + paging.limit - 1) / paging.limit := by
    rw [Nat.le_div_iff_mul_le limited]
    omega
  rw [pageCount, pageCount, further]
  omega

section Fixed

variable {hit : Record → Bool} {records : List Record} (usable : paging.Usable schema)
  (pageable : Pageable schema paging.order paging.idField records)

include usable pageable

/-- Behind the records given out so far, the rest of the sorted list is left. -/
theorem left_eq_rest {emitted rest : List Record}
    (split : sort (Order.keys paging.order) (records.filter hit) = emitted ++ rest) :
    paging.left hit emitted.getLast? records = rest := by
  rcases List.eq_nil_or_concat emitted with none | ⟨before, cursor, concat⟩
  · subst none
    have all : (fun record => hit record && isBehind (Order.keys paging.order) none record) = hit :=
      funext fun record => Bool.and_true _
    rw [left, List.getLast?_nil, all, split, List.nil_append]
  · have whole : sort (Order.keys paging.order) (records.filter hit) =
        before ++ cursor :: rest := by
      rw [split, concat, List.concat_eq_append, List.append_assoc, List.singleton_append]
    have ranked := (pageable.ranked usable.ordered).sublist (@List.filter_sublist _ hit records)
    have sorted := ranked.perm (perm_sort (Order.keys paging.order) (records.filter hit))
    have increasing := ranked.pairwise_sort
    rw [whole] at sorted increasing
    have behind := (filter_around sorted.placed increasing).1
    have kept : (records.filter fun record =>
        hit record && isBehind (Order.keys paging.order) (some cursor) record).Perm rest := by
      have permuted := (perm_sort (Order.keys paging.order) (records.filter hit)).filter
        (isBefore (Order.keys paging.order) cursor)
      rw [whole, behind, List.filter_filter] at permuted
      have commuted : (records.filter fun record =>
          hit record && isBehind (Order.keys paging.order) (some cursor) record) =
            records.filter fun record =>
              isBefore (Order.keys paging.order) cursor record && hit record := by
        apply List.filter_congr
        intro record _
        exact Bool.and_comm _ _
      rw [commuted]
      exact permuted.symm
    have restSublist : rest.Sublist (before ++ cursor :: rest) :=
      (List.sublist_cons_self cursor rest).trans (List.sublist_append_right _ _)
    rw [concat, List.concat_eq_append, left, List.getLast?_concat]
    exact (sorted.sublist restSublist).sort_eq_of_perm kept (increasing.sublist restSublist)

/-- A round over the fixed store gives out the first page of the rest of the sorted list. -/
theorem run_round (admits : ∀ record ∈ records, paging.Admits hit record) (rounds : Nat)
    {emitted rest : List Record}
    (split : sort (Order.keys paging.order) (records.filter hit) = emitted ++ rest) :
    paging.run (emitted.getLast?.map paging.token) (List.replicate (rounds + 1) records) =
      if paging.limit < rest.length then
        (paging.run ((rest.take paging.limit).getLast?.map paging.token)
          (List.replicate rounds records)).map (paging.pageOf rest :: ·)
      else .ok [paging.pageOf rest] := by
  have emittedIn : ∀ cursor ∈ emitted.getLast?, cursor ∈ records := by
    intro cursor isLast
    have inSorted : cursor ∈ emitted ++ rest :=
      List.mem_append_left rest (List.mem_of_getLast? isLast)
    rw [← split, (perm_sort _ _).mem_iff] at inSorted
    exact (List.mem_filter.mp inSorted).1
  have step := run_cons usable admits
    (fun cursor isLast => pageable.conforms cursor (emittedIn cursor isLast)) pageable.conforms
    (fun cursor isLast record member => pageable.identified member (emittedIn cursor isLast))
    (List.replicate rounds records)
  rwa [left_eq_rest usable pageable split] at step

/-- A run over the fixed store gives out the rest of the sorted list. -/
theorem run_rest (admits : ∀ record ∈ records, paging.Admits hit record) {rounds : Nat}
    {emitted rest : List Record}
    (split : sort (Order.keys paging.order) (records.filter hit) = emitted ++ rest)
    (enough : paging.pageCount rest.length ≤ rounds) :
    ∃ pages, paging.run (emitted.getLast?.map paging.token) (List.replicate rounds records) =
        .ok pages ∧ pages.length = paging.pageCount rest.length ∧ Stopped pages ∧
      (∀ page ∈ pages.dropLast, page.size = paging.limit) ∧ returned pages = rest := by
  induction rounds generalizing emitted rest with
  | zero =>
      rw [pageCount] at enough
      omega
  | succ rounds ih =>
      rw [run_round usable pageable admits rounds split]
      by_cases more : paging.limit < rest.length
      · have resplit : sort (Order.keys paging.order) (records.filter hit) =
            (emitted ++ rest.take paging.limit) ++ rest.drop paging.limit := by
          rw [split, List.append_assoc, List.take_append_drop]
        have full : (rest.take paging.limit).length = paging.limit := by
          rw [List.length_take, Nat.min_eq_left (Nat.le_of_lt more)]
        have taken : rest.take paging.limit ≠ [] :=
          List.ne_nil_of_length_pos (full.symm ▸ usable.limited)
        have count := pageCount_of_lt usable more
        obtain ⟨further, ran, length, stopped, sizes, all⟩ := ih resplit (by
          rw [List.length_drop]
          omega)
        rw [List.getLast?_append_of_ne_nil _ taken] at ran
        refine ⟨paging.pageOf rest :: further, ?_, ?_, stopped_cons stopped, ?_, ?_⟩
        · simp only [more, ↓reduceIte]
          rw [ran]
          rfl
        · rw [List.length_cons, length, List.length_drop, count]
        · rw [List.dropLast_cons_of_ne_nil (ne_nil_of_stopped stopped)]
          exact List.forall_mem_cons.mpr ⟨(size_pageOf rest).trans full, sizes⟩
        · rw [returned_cons, records_pageOf, all, List.take_append_drop]
      · have all := Nat.le_of_not_lt more
        refine ⟨[paging.pageOf rest], ?_, ?_, ?_, ?_, ?_⟩
        · simp only [more, ↓reduceIte]
        · rw [pageCount_of_le usable all]
          rfl
        · simp [Stopped, more]
        · exact fun _ absent => absurd absent List.not_mem_nil
        · rw [returned, List.flatMap_singleton, records_pageOf, List.take_of_length_le all]

end Fixed

/-- **Filtered paging visits the filtered, sorted records and ends.** While the store stays as it
is, a run gives out the records that the filter selects, in the order of sorting. It takes as many
pages as they fill, or one if there are none, and every page but the last is full. -/
theorem run_filtered {filter : Predicate} {records : List Record} (usable : paging.Usable schema)
    (filtered : paging.filter = some filter)
    (pageable : Pageable schema paging.order paging.idField records)
    (defined : ∀ record ∈ records, ∃ hit, filter.eval record = .ok hit) :
    ∃ hits, filter.select records = .ok hits ∧
      ∀ rounds, max 1 ((hits.length + paging.limit - 1) / paging.limit) ≤ rounds →
        ∃ pages, paging.run none (List.replicate rounds records) = .ok pages ∧
          pages.length = max 1 ((hits.length + paging.limit - 1) / paging.limit) ∧
          Stopped pages ∧ (∀ page ∈ pages.dropLast, page.size = paging.limit) ∧
          returned pages = sort (Order.keys paging.order) hits := by
  have evaluates : ∀ record ∈ records, filter.eval record = .ok (filter.isHit record) :=
    fun record member => Predicate.eval_of_defined (defined record member)
  have admits : ∀ record ∈ records, paging.Admits filter.isHit record := by
    intro record member
    rw [Admits, filtered]
    exact evaluates record member
  refine ⟨records.filter filter.isHit, Predicate.select_eq_filter filter evaluates, ?_⟩
  intro rounds enough
  have size := (perm_sort (Order.keys paging.order) (records.filter filter.isHit)).length_eq
  have rest : paging.pageCount
      (sort (Order.keys paging.order) (records.filter filter.isHit)).length ≤ rounds := by
    rw [pageCount, size]
    exact enough
  obtain ⟨pages, ran, length, stopped, sizes, all⟩ :=
    run_rest usable pageable admits (List.nil_append _).symm rest
  rw [pageCount, size] at length
  exact ⟨pages, ran, length, stopped, sizes, all⟩

/-- Four records on pages of two: the second page is full, and no third one is fetched. -/
theorem run_filtered_full :
    let person (id age : Int64) : Record := FieldMap.ofList [("id", .int id), ("age", .int age)]
    let filter : Predicate := .compare "age" .gte (.int 20)
    let paging : Paging := ⟨[⟨"age", .desc⟩, ⟨"id", .asc⟩], "id", 2, some filter⟩
    let records := [person 2 25, person 4 41, person 5 19, person 3 30, person 1 30]
    let hits := [person 2 25, person 4 41, person 3 30, person 1 30]
    paging.Usable (fun _ => .int) ∧ paging.filter = some filter ∧
      Pageable (fun _ => .int) paging.order paging.idField records ∧
      (∀ record ∈ records, ∃ hit, filter.eval record = .ok hit) ∧
      filter.select records = .ok hits ∧
      ∃ pages, paging.run none [records, records, records] = .ok pages ∧ pages.length = 2 ∧
        Stopped pages ∧ (∀ page ∈ pages.dropLast, page.size = 2) ∧
        returned pages = sort (Order.keys paging.order) hits := by
  intro person filter paging records hits
  have usable : paging.Usable (fun _ => .int) := ⟨by decide, by decide, by decide, by decide⟩
  have pageable : Pageable (fun _ => .int) paging.order paging.idField records :=
    { conforms := by
        unfold Record.Conforms
        decide
      distinct := by
        change List.Nodup [Value.int 2, .int 4, .int 5, .int 3, .int 1]
        simp }
  have defined : ∀ record ∈ records, ∃ hit, filter.eval record = .ok hit := fun _ _ => ⟨_, rfl⟩
  have selects : filter.select records = .ok hits := rfl
  obtain ⟨found, selected, runs⟩ := run_filtered usable rfl pageable defined
  obtain rfl : found = hits := Except.ok.inj (selected.symm.trans selects)
  have count : max 1 ((hits.length + paging.limit - 1) / paging.limit) = 2 := by decide
  rw [count] at runs
  exact ⟨usable, rfl, pageable, defined, selects, runs 3 (by decide)⟩

end Keyset.Paging
