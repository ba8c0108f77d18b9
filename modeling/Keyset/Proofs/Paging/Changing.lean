import Mathlib.Data.List.Forall2
import Keyset.Proofs.Paging.Loop

/-! # Paging through a changing store

Records may come and go between two pages. What is given out increases strictly in the order of
paging, also across pages, and a run that stops has given out every record that was in each of
its stores (`Keyset.Paging.run_changing_stores`). A page is determined by the last record before
it, which need not be in the store any more.
-/

namespace Keyset

/-- The successive contents of a store: each can be paged through, and an id carries the same
record in all of them. -/
structure Successive (schema : String → Value.Kind) (order : Order) (idField : String)
    (stores : List (List Record)) : Prop where
  pageable : ∀ store ∈ stores, Pageable schema order idField store
  stable : ∀ first ∈ stores.flatten, ∀ second ∈ stores.flatten,
    first.value idField = second.value idField → first = second

namespace Successive

variable {schema : String → Value.Kind} {order : Order} {idField : String}
  {stores : List (List Record)}

theorem conforms (successive : Successive schema order idField stores) :
    ∀ record ∈ stores.flatten, record.Conforms schema order := by
  intro record member
  obtain ⟨store, inStores, inStore⟩ := List.mem_flatten.mp member
  exact (successive.pageable store inStores).conforms record inStore

theorem isBefore_trans (successive : Successive schema order idField stores)
    {first second third : Record} (inFirst : first ∈ stores.flatten)
    (inSecond : second ∈ stores.flatten) (inThird : third ∈ stores.flatten)
    (before : Sorting.isBefore order.keys first second = true)
    (further : Sorting.isBefore order.keys second third = true) :
    Sorting.isBefore order.keys first third = true := by
  have firstConforms := successive.conforms first inFirst
  have secondConforms := successive.conforms second inSecond
  have thirdConforms := successive.conforms third inThird
  exact Sorting.isBefore_trans (Sorting.placed_of_conforms .forward firstConforms secondConforms)
    (Sorting.placed_of_conforms .forward secondConforms thirdConforms)
    (Sorting.placed_of_conforms .forward firstConforms thirdConforms) before further

/-- What lies behind a record behind the last one lies behind the last one. -/
theorem isBehind_trans (successive : Successive schema order idField stores)
    {last : Option Record} {next record : Record}
    (lastIn : ∀ cursor ∈ last, cursor ∈ stores.flatten) (inNext : next ∈ stores.flatten)
    (inRecord : record ∈ stores.flatten)
    (behind : Sorting.isBehind order.keys last next = true)
    (further : Sorting.isBefore order.keys next record = true) :
    Sorting.isBehind order.keys last record = true := by
  cases last with
  | none => rfl
  | some cursor =>
      exact successive.isBefore_trans (lastIn cursor rfl) inNext inRecord behind further

end Successive

namespace Paging

open Sorting

/-- The records of every page are records of the store that it was fetched from. -/
abbrev Drawn (pages : List Connection) (stores : List (List Record)) : Prop :=
  List.Forall₂ (fun page store => page.records ⊆ store) pages stores

/-- What a run behind the last record gives out: records of its stores behind that record, in
strictly increasing order and on full pages while more follow, and, if it stops, all that are in
each of its stores. -/
structure Visits (paging : Paging) (hit : Record → Bool) (last : Option Record)
    (stores : List (List Record)) (pages : List Connection) : Prop where
  drawn : Drawn pages (stores.take pages.length)
  full : ∀ page ∈ pages, page.hasMore = true → page.size = paging.limit
  behind : ∀ record ∈ returned pages, isBehind (Order.keys paging.order) last record = true
  increasing : (returned pages).Pairwise fun earlier later =>
    isBefore (Order.keys paging.order) earlier later = true
  complete : Stopped pages → ∀ record, hit record = true →
    isBehind (Order.keys paging.order) last record = true →
    (∀ store ∈ stores.take pages.length, record ∈ store) → record ∈ returned pages

variable {schema : String → Value.Kind} {paging : Paging} {stores : List (List Record)}
  {hit : Record → Bool}

theorem mem_flatten_of_drawn {pages : List Connection} (drawn : Drawn pages stores)
    {record : Record} (member : record ∈ returned pages) : record ∈ stores.flatten := by
  induction drawn with
  | nil => exact member
  | cons here _ ih =>
      rw [returned_cons] at member
      rw [List.flatten_cons]
      rcases List.mem_append.mp member with onPage | afterPage
      · exact List.mem_append_left _ (here onPage)
      · exact List.mem_append_right _ (ih afterPage)

theorem Visits.within {last : Option Record} {pages : List Connection}
    (visits : paging.Visits hit last stores pages) :
    ∀ record ∈ returned pages, record ∈ stores.flatten := by
  intro record member
  obtain ⟨store, taken, inStore⟩ := List.mem_flatten.mp (mem_flatten_of_drawn visits.drawn member)
  exact List.mem_flatten_of_mem (List.mem_of_mem_take taken) inStore

/-- A page that says that no more records follow visits what is left. -/
theorem visits_last (usable : paging.Usable schema) {last : Option Record} {store : List Record}
    (later : List (List Record)) (pageable : Pageable schema paging.order paging.idField store)
    (all : ¬paging.limit < (paging.left hit last store).length) :
    paging.Visits hit last (store :: later) [paging.pageOf (paging.left hit last store)] := by
  have records : returned [paging.pageOf (paging.left hit last store)] =
      paging.left hit last store := by
    rw [returned_cons, records_pageOf, List.take_of_length_le (Nat.le_of_not_lt all)]
    exact List.append_nil _
  refine ⟨?_, ?_, ?_, ?_, ?_⟩
  · refine List.Forall₂.cons ?_ List.Forall₂.nil
    rw [records_pageOf]
    intro record onPage
    exact (mem_left.mp (List.mem_of_mem_take onPage)).1
  · refine List.forall_mem_singleton.mpr ?_
    intro more
    rw [hasMore_pageOf, decide_eq_true_eq] at more
    exact absurd more all
  · rw [records]
    exact fun record member => (mem_left.mp member).2.2
  · rw [records]
    exact pairwise_left usable hit last pageable
  · intro _ record admitted behind present
    rw [records]
    exact mem_left.mpr ⟨present store List.mem_cons_self, admitted, behind⟩

/-- A page that does not hold all that is left cuts it at the last record of the page. -/
structure CutAt (keys : List SortKey) (left page : List Record) (next : Record) : Prop where
  isLast : page.getLast? = some next
  onPage : next ∈ page
  upTo : ∀ record ∈ page, record = next ∨ isBefore keys record next = true
  behind : ∀ record ∈ left, record ∈ page ∨ isBefore keys next record = true

theorem exists_last (usable : paging.Usable schema) {left : List Record}
    (more : paging.limit < left.length) : ∃ front next back,
      left = front ++ next :: back ∧ left.take paging.limit = front ++ [next] := by
  obtain ⟨count, room⟩ := Nat.exists_eq_succ_of_ne_zero (Nat.ne_of_gt usable.limited)
  have present : count < left.length := by omega
  refine ⟨left.take count, left[count], left.drop (count + 1), ?_, ?_⟩
  · rw [List.getElem_cons_drop, List.take_append_drop]
  · rw [room, List.take_append_getElem]

theorem exists_cutAt (usable : paging.Usable schema) {keys : List SortKey} {left : List Record}
    (more : paging.limit < left.length)
    (ordered : left.Pairwise fun earlier later => isBefore keys earlier later = true) :
    ∃ next, CutAt keys left (left.take paging.limit) next := by
  obtain ⟨front, next, back, split, taken⟩ := exists_last usable more
  rw [split] at ordered
  obtain ⟨-, fromNext, frontBefore⟩ := List.pairwise_append.mp ordered
  refine ⟨next, ?_, ?_, ?_, ?_⟩ <;> rw [taken]
  · exact List.getLast?_concat
  · exact List.mem_append_right front List.mem_cons_self
  · intro record member
    rcases List.mem_append.mp member with inFront | isNext
    · exact Or.inr (frontBefore record inFront next List.mem_cons_self)
    · exact Or.inl (List.mem_singleton.mp isNext)
  · intro record member
    rw [split, List.append_cons] at member
    rcases List.mem_append.mp member with onPage | inBack
    · exact Or.inl onPage
    · exact Or.inr ((List.pairwise_cons.mp fromNext).1 record inBack)

/-- A page and what is visited behind its last record. -/
theorem visits_cons (usable : paging.Usable schema) {last : Option Record} {store : List Record}
    {later : List (List Record)} {next : Record}
    (successive : Successive schema paging.order paging.idField stores)
    (inStores : store :: later ⊆ stores) (lastIn : ∀ cursor ∈ last, cursor ∈ stores.flatten)
    (more : paging.limit < (paging.left hit last store).length)
    (cut : CutAt (Order.keys paging.order) (paging.left hit last store)
      ((paging.left hit last store).take paging.limit) next)
    {further : List Connection}
    (visits : paging.Visits hit (some next) later further) :
    paging.Visits hit last (store :: later)
      (paging.pageOf (paging.left hit last store) :: further) := by
  have records : returned (paging.pageOf (paging.left hit last store) :: further) =
      (paging.left hit last store).take paging.limit ++ returned further := by
    rw [returned_cons, records_pageOf]
  have isLeft : ∀ record ∈ (paging.left hit last store).take paging.limit,
      record ∈ store ∧ hit record = true ∧
        isBehind (Order.keys paging.order) last record = true :=
    fun record onPage => mem_left.mp (List.mem_of_mem_take onPage)
  have pageIn : ∀ record ∈ (paging.left hit last store).take paging.limit,
      record ∈ stores.flatten := fun record onPage =>
    List.mem_flatten_of_mem (inStores List.mem_cons_self) (isLeft record onPage).1
  have furtherIn : ∀ record ∈ returned further, record ∈ stores.flatten := by
    intro record member
    obtain ⟨each, inLater, inEach⟩ := List.mem_flatten.mp (visits.within record member)
    exact List.mem_flatten_of_mem (inStores (List.mem_cons_of_mem _ inLater)) inEach
  have nextIn := pageIn next cut.onPage
  have ordered := pairwise_left usable hit last
    (successive.pageable store (inStores List.mem_cons_self))
  refine ⟨?_, ?_, ?_, ?_, ?_⟩
  · refine List.Forall₂.cons ?_ visits.drawn
    rw [records_pageOf]
    exact fun record onPage => (isLeft record onPage).1
  · refine List.forall_mem_cons.mpr ⟨?_, visits.full⟩
    intro _
    rw [size_pageOf, List.length_take, Nat.min_eq_left (Nat.le_of_lt more)]
  · intro record member
    rw [records] at member
    rcases List.mem_append.mp member with onPage | afterPage
    · exact (isLeft record onPage).2.2
    · exact successive.isBehind_trans lastIn nextIn (furtherIn record afterPage)
        (isLeft next cut.onPage).2.2 (visits.behind record afterPage)
  · rw [records]
    apply List.pairwise_append.mpr
    refine ⟨ordered.sublist (List.take_sublist _ _), visits.increasing, ?_⟩
    intro earlier onPage record afterPage
    have behindNext := visits.behind record afterPage
    rcases cut.upTo earlier onPage with isNext | beforeNext
    · rw [isNext]
      exact behindNext
    · exact successive.isBefore_trans (pageIn earlier onPage) nextIn (furtherIn record afterPage)
        beforeNext behindNext
  · intro stopped record admitted behind present
    obtain ⟨inStore, inLater⟩ := List.forall_mem_cons.mp present
    have stoppedFurther := stopped_of_cons (by simp [more]) stopped
    rw [records, List.mem_append]
    rcases cut.behind record (mem_left.mpr ⟨inStore, admitted, behind⟩) with onPage | behindNext
    · exact Or.inl onPage
    · exact Or.inr (visits.complete stoppedFurther record admitted behindNext inLater)

/-- A run behind a record of the stores gives out what lies behind it. -/
theorem run_visits (usable : paging.Usable schema)
    (successive : Successive schema paging.order paging.idField stores)
    (admits : ∀ record ∈ stores.flatten, paging.Admits hit record)
    {later : List (List Record)} {last : Option Record} (inStores : later ⊆ stores)
    (lastIn : ∀ cursor ∈ last, cursor ∈ stores.flatten) :
    ∃ pages, paging.run (last.map paging.token) later = .ok pages ∧
      paging.Visits hit last later pages := by
  -- The last record stands for the whole past of the run: it need not be in any later store.
  induction later generalizing last with
  | nil =>
      refine ⟨[], rfl, List.Forall₂.nil, ?_, ?_, ?_, ?_⟩
      · exact fun _ absent => absurd absent List.not_mem_nil
      · exact fun _ absent => absurd absent List.not_mem_nil
      · exact List.Pairwise.nil
      · exact fun stopped => absurd stopped (by simp [Stopped])
  | cons store rest ih =>
      obtain ⟨here, inRest⟩ := List.cons_subset.mp inStores
      have pageable := successive.pageable store here
      have storeIn : ∀ record ∈ store, record ∈ stores.flatten := fun record member =>
        List.mem_flatten_of_mem here member
      have step := run_cons usable (fun record member => admits record (storeIn record member))
        (fun cursor member => successive.conforms cursor (lastIn cursor member)) pageable.conforms
        (fun cursor member record inStore same =>
          successive.stable record (storeIn record inStore) cursor (lastIn cursor member) same) rest
      rw [step]
      by_cases more : paging.limit < (paging.left hit last store).length
      · obtain ⟨next, cut⟩ := exists_cutAt usable more (pairwise_left usable hit last pageable)
        have nextIn : ∀ cursor ∈ some next, cursor ∈ stores.flatten := by
          rintro _ ⟨⟩
          exact storeIn next (mem_left.mp (List.mem_of_mem_take cut.onPage)).1
        obtain ⟨further, ran, visits⟩ := ih inRest nextIn
        refine ⟨paging.pageOf (paging.left hit last store) :: further, ?_, ?_⟩
        · simp only [more, ↓reduceIte, cut.isLast]
          rw [ran]
          rfl
        · exact visits_cons usable successive inStores lastIn more cut visits
      · refine ⟨[paging.pageOf (paging.left hit last store)], ?_, ?_⟩
        · simp only [more, ↓reduceIte]
        · exact visits_last usable rest pageable more

/-- **Paging survives a changing store.** Between two pages records may be put into the store,
taken out of it and moved. Every page holds records of its own store, and as many as a page can
hold while more follow. A run gives out records in strictly increasing order, none of them twice;
and if it stops, it has given out every record that was in each of its stores. -/
theorem run_changing_stores (usable : paging.Usable schema) (unfiltered : paging.filter = none)
    (successive : Successive schema paging.order paging.idField stores) :
    ∃ pages, paging.run none stores = .ok pages ∧ Drawn pages (stores.take pages.length) ∧
      (∀ page ∈ pages, page.hasMore = true → page.size = paging.limit) ∧
      (returned pages).Pairwise (fun earlier later =>
        isBefore (Order.keys paging.order) earlier later = true) ∧
      ((returned pages).map fun record => record.value paging.idField).Nodup ∧
      (Stopped pages → ∀ record, (∀ store ∈ stores.take pages.length, record ∈ store) →
        record ∈ returned pages) := by
  have admits : ∀ record ∈ stores.flatten, paging.Admits (fun _ => true) record := by
    intro record _
    rw [Admits, unfiltered]
  have noLast : ∀ cursor ∈ (none : Option Record), cursor ∈ stores.flatten := by
    rintro _ ⟨⟩
  obtain ⟨pages, ran, visits⟩ :=
    run_visits usable successive admits (List.Subset.refl stores) noLast
  refine ⟨pages, ran, visits.drawn, visits.full, visits.increasing, ?_, ?_⟩
  · apply List.pairwise_map.mpr
    apply visits.increasing.imp_of_mem
    intro earlier later inEarlier inLater before sameId
    have same := successive.stable earlier (visits.within earlier inEarlier) later
      (visits.within later inLater) sameId
    have conforms := successive.conforms later (visits.within later inLater)
    have tied : compareRecords (Order.keys paging.order) later later = .eq :=
      compareRecords_self (placed_of_conforms .forward conforms conforms)
    rw [same, isBefore_iff, tied] at before
    contradiction
  · intro stopped record present
    exact visits.complete stopped record rfl rfl present

/-- The last record of the first page is gone and another one has come before the second page is
fetched, with which the run stops; the third store is not looked at. -/
theorem run_changing_stores_deleted :
    let person (id age : Int64) : Record := FieldMap.ofList [("id", .int id), ("age", .int age)]
    let paging : Paging := ⟨[⟨"age", .desc⟩, ⟨"id", .asc⟩], "id", 2, none⟩
    let stores := [[person 3 30, person 2 25, person 1 30], [person 2 25, person 4 41, person 1 30],
      [person 5 19]]
    paging.Usable (fun _ => .int) ∧ paging.filter = none ∧
      Successive (fun _ => .int) paging.order paging.idField stores ∧
      ∃ pages, paging.run none stores = .ok pages ∧ Drawn pages (stores.take 2) ∧
        (∀ page ∈ pages, page.hasMore = true → page.size = 2) ∧
        (returned pages).Pairwise (fun earlier later =>
          isBefore (Order.keys paging.order) earlier later = true) ∧
        ((returned pages).map fun record => record.value paging.idField).Nodup ∧
        Stopped pages ∧ person 2 25 ∈ returned pages := by
  intro person paging stores
  have usable : paging.Usable (fun _ => .int) := ⟨by decide, by decide, by decide, by decide⟩
  let persons := [person 1 30, person 2 25, person 3 30, person 4 41, person 5 19]
  have flat : stores.flatten ⊆ persons := by
    simp [stores, persons]
  have ids : (persons.map fun record => record.value paging.idField).Nodup := by
    change List.Nodup [Value.int 1, .int 2, .int 3, .int 4, .int 5]
    simp
  have successive : Successive (fun _ => .int) paging.order paging.idField stores :=
    { pageable := by
        refine List.forall_mem_cons.mpr ⟨⟨?_, ?_⟩, List.forall_mem_cons.mpr ⟨⟨?_, ?_⟩,
          List.forall_mem_singleton.mpr ⟨?_, ?_⟩⟩⟩
        · unfold Record.Conforms
          decide
        · change List.Nodup [Value.int 3, .int 2, .int 1]
          simp
        · unfold Record.Conforms
          decide
        · change List.Nodup [Value.int 2, .int 4, .int 1]
          simp
        · unfold Record.Conforms
          decide
        · exact List.nodup_singleton _
      stable := fun first inFirst second inSecond same =>
        List.inj_on_of_nodup_map ids (flat inFirst) (flat inSecond) same }
  obtain ⟨pages, ran, drawn, full, increasing, distinct, complete⟩ :=
    run_changing_stores usable rfl successive
  have ends : (match paging.run none stores with
      | .ok pages => pages.map Connection.hasMore == [true, false]
      | .error _ => false) = true := by decide +kernel
  rw [ran] at ends
  have flags : pages.map Connection.hasMore = [true, false] := beq_iff_eq.mp ends
  have stopped : Stopped pages := by
    rw [Stopped, ← List.getLast?_map, flags]
    rfl
  have length : pages.length = 2 := by
    rw [← List.length_map Connection.hasMore, flags]
    rfl
  rw [length] at drawn complete
  refine ⟨usable, rfl, successive, pages, ran, drawn, full, increasing, distinct, stopped, ?_⟩
  apply complete stopped (person 2 25)
  simp [stores]

end Paging

end Keyset
