import Keyset.Proofs.Sorting.Order

/-! # Sorting is stable

Where sorting mixes no values, it gives the one list of the records that is in the lexicographic
order of the keys and keeps the order of records that tie at all of them
(`Keyset.Sorting.isStableSort_iff`). That list may be made key by key as well: sorted by the last
key first and by the first key last, each pass keeps what the passes before it have done
(`Keyset.Sorting.isStableSort_passes`).
-/

namespace Keyset.Sorting

open Std

/-- At every key, no record has a double, and not one of them a string and another one a
timestamp. -/
structure Sortable (keys : List SortKey) (records : List Record) : Prop where
  noDoubles : ∀ key ∈ keys, ∀ record ∈ records, ∀ x : Float, record.value key.field ≠ .float x
  noReadings : ∀ key ∈ keys, ∀ first ∈ records, ∀ second ∈ records, ∀ (s : String)
    (t : Time.Instant), first.value key.field = .string s → second.value key.field ≠ .timestamp t

/-- The records tie at a key. -/
def TieAt (key : SortKey) (first second : Record) : Prop :=
  compareValues key.direction (first.value key.field) (second.value key.field) = .eq

/-- The first record comes before the second one at a key. -/
def LessAt (key : SortKey) (first second : Record) : Prop :=
  compareValues key.direction (first.value key.field) (second.value key.field) = .lt

/-- The lexicographic order of the keys: the records tie at all of them, or the first one is less
at the first key where they do not tie. -/
def AtMost (keys : List SortKey) (first second : Record) : Prop :=
  (∀ key ∈ keys, TieAt key first second) ∨
    ∃ before key after, keys = before ++ key :: after ∧
      (∀ earlier ∈ before, TieAt earlier first second) ∧ LessAt key first second

/-- Whether the records tie at every key. -/
def tie (keys : List SortKey) (first second : Record) : Bool :=
  compareRecords keys first second == .eq

/-- A list of the same records, in the order of the keys, in which records that tie have kept their
order. -/
structure IsStableSort (keys : List SortKey) (records sorted : List Record) : Prop where
  perm : sorted.Perm records
  ordered : sorted.Pairwise (AtMost keys)
  stable : ∀ record ∈ records, sorted.filter (tie keys record) = records.filter (tie keys record)

variable {keys : List SortKey} {key : SortKey} {first second third : Record}
  {records sorted others : List Record}

/-! ## The order of the keys -/

theorem Sortable.allPlaced (sortable : Sortable keys records) : AllPlaced keys records := by
  intro first inFirst second inSecond key inKeys
  have noDouble := sortable.noDoubles key inKeys first inFirst
  have alsoNoDouble := sortable.noDoubles key inKeys second inSecond
  have noReading := sortable.noReadings key inKeys first inFirst second inSecond
  have alsoNoReading := sortable.noReadings key inKeys second inSecond first inFirst
  cases left : first.value key.field with
  | float x => exact absurd left (noDouble x)
  | _ =>
      cases right : second.value key.field with
      | float y => exact absurd right (alsoNoDouble y)
      | _ =>
          first
            | rfl
            | exact absurd right (noReading _ _ left)
            | exact absurd left (alsoNoReading _ _ right)

theorem tie_iff : tie keys first second = true ↔ ∀ key ∈ keys, TieAt key first second := by
  rw [tie, beq_iff_eq]
  induction keys with
  | nil => exact ⟨fun _ _ absent => absurd absent List.not_mem_nil, fun _ => rfl⟩
  | cons key rest ih => rw [compareRecords, Ordering.then_eq_eq, ih, List.forall_mem_cons, TieAt]

theorem atMost_cons {rest : List SortKey} :
    AtMost (key :: rest) first second ↔
      LessAt key first second ∨ (TieAt key first second ∧ AtMost rest first second) := by
  constructor
  · rintro (ties | ⟨before, decisive, after, split, ties, less⟩)
    · obtain ⟨here, later⟩ := List.forall_mem_cons.mp ties
      exact Or.inr ⟨here, Or.inl later⟩
    · cases before with
      | nil =>
          obtain ⟨rfl, rfl⟩ := List.cons.inj split
          exact Or.inl less
      | cons earlier before =>
          obtain ⟨rfl, rfl⟩ := List.cons.inj split
          obtain ⟨here, later⟩ := List.forall_mem_cons.mp ties
          exact Or.inr ⟨here, Or.inr ⟨before, decisive, after, rfl, later, less⟩⟩
  · rintro (less | ⟨here, ties | ⟨before, decisive, after, rfl, later, less⟩⟩)
    · exact Or.inr ⟨[], key, rest, rfl, List.forall_mem_nil _, less⟩
    · exact Or.inl (List.forall_mem_cons.mpr ⟨here, ties⟩)
    · exact Or.inr ⟨key :: before, decisive, after, rfl,
        List.forall_mem_cons.mpr ⟨here, later⟩, less⟩

theorem atMost_iff : AtMost keys first second ↔ (compareRecords keys first second).isLE := by
  induction keys with
  | nil => exact iff_of_true (Or.inl (List.forall_mem_nil _)) rfl
  | cons key rest ih =>
      rw [atMost_cons, ih, LessAt, TieAt, compareRecords]
      cases compareValues key.direction (first.value key.field) (second.value key.field) <;>
        simp

theorem atMost_or_atMost (placed : Placed keys first second) :
    AtMost keys first second ∨ AtMost keys second first := by
  rw [atMost_iff, atMost_iff, compareRecords_swap placed]
  cases compareRecords keys first second <;> decide

theorem AtMost.trans (firstSecond : Placed keys first second)
    (secondThird : Placed keys second third) (firstThird : Placed keys first third)
    (atMost : AtMost keys first second) (further : AtMost keys second third) :
    AtMost keys first third := by
  rw [atMost_iff, compareRecords_eq_places firstSecond] at atMost
  rw [atMost_iff, compareRecords_eq_places secondThird] at further
  rw [atMost_iff, compareRecords_eq_places firstThird]
  exact TransCmp.isLE_trans atMost further

theorem tie_self (placed : Placed keys first first) : tie keys first first = true := by
  rw [tie, beq_iff_eq, compareRecords_eq_places placed]
  exact ReflCmp.compare_self

theorem tie_of_atMost (placed : Placed keys first second) (atMost : AtMost keys first second)
    (back : AtMost keys second first) : tie keys first second = true := by
  rw [atMost_iff] at atMost
  rw [atMost_iff, compareRecords_swap placed] at back
  rw [tie]
  cases compared : compareRecords keys first second with
  | eq => rfl
  | lt =>
      rw [compared] at back
      cases back
  | gt =>
      rw [compared] at atMost
      cases atMost

/-- Of two records that tie with a third one, neither lies strictly before the other. -/
theorem not_isBefore_of_ties (firstSecond : Placed keys first second)
    (firstThird : Placed keys first third) (secondThird : Placed keys second third)
    (ties : tie keys first second = true) (alsoTies : tie keys first third = true) :
    isBefore keys second third = false := by
  rw [tie, beq_iff_eq, compareRecords_eq_places firstSecond] at ties
  rw [tie, beq_iff_eq, compareRecords_eq_places firstThird] at alsoTies
  have same : comparePlaces keys second third = .eq :=
    TransCmp.eq_trans (OrientedCmp.eq_symm ties) alsoTies
  rw [isBefore, compareRecords_eq_places secondThird, same]
  rfl

/-- Null comes after all other values ascending, and before them descending. -/
theorem compareValues_null {value : Value} (present : value ≠ .null) :
    compareValues .asc value .null = .lt ∧ compareValues .desc .null value = .lt := by
  cases value with
  | null => exact absurd rfl present
  | _ => exact ⟨rfl, rfl⟩

/-! ## The sorted list -/

/-- Putting a record into a list moves it past no record that it ties with. -/
theorem filter_place {record : Record} (placed : AllPlaced keys (first :: record :: sorted)) :
    (place keys record sorted).filter (tie keys first) =
      (record :: sorted).filter (tie keys first) := by
  induction sorted with
  | nil => rfl
  | cons last earlier ih =>
      rw [place]
      split
      next before =>
        have subset : first :: record :: earlier ⊆ first :: record :: last :: earlier := by
          grind
        have inner := ih (placed.subset subset)
        by_cases ties : tie keys first last = true
        · have apart : tie keys first record = false := by
            rw [Bool.eq_false_iff]
            intro alsoTies
            have notBefore := not_isBefore_of_ties (placed first (by simp) record (by simp))
              (placed first (by simp) last (by simp)) (placed record (by simp) last (by simp))
              alsoTies ties
            rw [before] at notBefore
            cases notBefore
          rw [List.filter_cons, inner]
          simp [ties, apart]
        · rw [List.filter_cons, inner]
          simp [ties, List.filter_cons]
      next => rfl

theorem filter_foldl_place {rest : List Record}
    (placed : AllPlaced keys (first :: (rest ++ sorted))) :
    (rest.foldl (fun sorted record => place keys record sorted) sorted).filter (tie keys first) =
      (rest.reverse ++ sorted).filter (tie keys first) := by
  induction rest generalizing sorted with
  | nil => rfl
  | cons record rest ih =>
      have moved := (perm_append_place keys record rest sorted).subset
      have front : first :: record :: sorted ⊆ first :: (record :: rest ++ sorted) :=
        List.cons_subset_cons first
          (List.cons_subset_cons record (List.subset_append_right rest sorted))
      have step := filter_place (placed.subset front)
      rw [List.foldl_cons, ih (placed.subset (List.cons_subset_cons first moved)),
        List.filter_append, step, ← List.filter_append, List.reverse_cons, List.append_assoc]
      rfl

theorem filter_sort (placed : AllPlaced keys (first :: records)) :
    (sort keys records).filter (tie keys first) = records.filter (tie keys first) := by
  rw [sort, List.filter_reverse, filter_foldl_place (by rwa [List.append_nil]), List.append_nil,
    List.filter_reverse, List.reverse_reverse]

/-- The sorted list is a stable sort. -/
theorem Sortable.isStableSort (sortable : Sortable keys records) :
    IsStableSort keys records (sort keys records) where
  perm := perm_sort keys records
  ordered := by
    have placed := sortable.allPlaced
    refine (pairwise_sort placed).imp_of_mem ?_
    intro earlier later inEarlier inLater notBefore
    have both := placed earlier ((perm_sort keys records).subset inEarlier) later
      ((perm_sort keys records).subset inLater)
    exact atMost_iff.mpr ((not_isBefore_iff both).mp notBefore)
  stable record present :=
    filter_sort (sortable.allPlaced.subset (List.cons_subset.mpr ⟨present, List.Subset.refl _⟩))

/-- Two lists in the order of the keys that show every record that ties with a given one in the same
order are the same. -/
theorem eq_of_ordered (placed : AllPlaced keys sorted) (same : sorted.Perm others)
    (ordered : sorted.Pairwise (AtMost keys)) (othersOrdered : others.Pairwise (AtMost keys))
    (ties : ∀ record ∈ sorted, sorted.filter (tie keys record) = others.filter (tie keys record)) :
    sorted = others := by
  induction sorted generalizing others with
  | nil => exact same.nil_eq
  | cons head rest ih =>
      cases others with
      | nil => exact absurd same.eq_nil (List.cons_ne_nil head rest)
      | cons front further =>
          obtain ⟨headLeast, restOrdered⟩ := List.pairwise_cons.mp ordered
          obtain ⟨frontLeast, furtherOrdered⟩ := List.pairwise_cons.mp othersOrdered
          have frontIn : front ∈ head :: rest := same.mem_iff.mpr List.mem_cons_self
          have headIn : head ∈ front :: further := same.mem_iff.mp List.mem_cons_self
          have headSelf := tie_self (placed head List.mem_cons_self head List.mem_cons_self)
          have headFront : tie keys head front = true := by
            rcases List.mem_cons.mp frontIn with isHead | inRest
            · rwa [isHead]
            · rcases List.mem_cons.mp headIn with isFront | inFurther
              · rwa [← isFront]
              · exact tie_of_atMost (placed head List.mem_cons_self front frontIn)
                  (headLeast front inRest) (frontLeast head inFurther)
          have heads := ties head List.mem_cons_self
          rw [List.filter_cons_of_pos headSelf, List.filter_cons_of_pos headFront] at heads
          obtain ⟨rfl, -⟩ := List.cons.inj heads
          have tails := ih (placed.subset (List.subset_cons_self _ _)) same.cons_inv restOrdered
            furtherOrdered fun record inRest => by
              have whole := ties record (List.mem_cons_of_mem _ inRest)
              by_cases withHead : tie keys record head = true
              · rw [List.filter_cons_of_pos withHead, List.filter_cons_of_pos withHead] at whole
                exact (List.cons.inj whole).2
              · rwa [List.filter_cons_of_neg withHead, List.filter_cons_of_neg withHead] at whole
          rw [tails]

theorem isStableSort_iff (sortable : Sortable keys records) :
    IsStableSort keys records sorted ↔ sorted = sort keys records := by
  constructor
  · intro found
    have made := sortable.isStableSort
    refine eq_of_ordered (sortable.allPlaced.subset found.perm.subset)
      (found.perm.trans made.perm.symm) found.ordered made.ordered fun record present => ?_
    have inRecords := found.perm.subset present
    rw [found.stable record inRecords, made.stable record inRecords]
  · rintro rfl
    exact sortable.isStableSort

/-! ## Key by key -/

theorem Sortable.of_subset (sortable : Sortable keys records) {front : List SortKey}
    (part : front ⊆ keys) (subset : others ⊆ records) : Sortable front others where
  noDoubles key inKeys record present :=
    sortable.noDoubles key (part inKeys) record (subset present)
  noReadings key inKeys first inFirst second inSecond :=
    sortable.noReadings key (part inKeys) first (subset inFirst) second (subset inSecond)

theorem tie_cons {rest : List SortKey} :
    tie (key :: rest) first second = (tie [key] first second && tie rest first second) := by
  rw [Bool.eq_iff_iff, Bool.and_eq_true, tie_iff, tie_iff, tie_iff, List.forall_mem_cons,
    List.forall_mem_singleton]

/-- Sorting a list that is stably sorted by the further keys by a key in front of them. -/
theorem IsStableSort.pass {rest : List SortKey} (sortable : Sortable (key :: rest) records)
    (found : IsStableSort rest records sorted) :
    IsStableSort (key :: rest) records (sort [key] sorted) := by
  have front : [key] ⊆ key :: rest := List.cons_subset_cons key (List.nil_subset rest)
  have passed := (sortable.of_subset front found.perm.subset).isStableSort
  have placed := (sortable.of_subset front (passed.perm.trans found.perm).subset).allPlaced
  refine ⟨passed.perm.trans found.perm, ?_, fun record present => ?_⟩
  · rw [List.pairwise_iff_forall_sublist]
    intro earlier later pair
    have inEarlier : earlier ∈ sort [key] sorted := pair.subset (by simp)
    have inLater : later ∈ sort [key] sorted := pair.subset (by simp)
    have order := List.pairwise_iff_forall_sublist.mp passed.ordered pair
    rcases atMost_cons.mp order with less | ⟨ties, -⟩
    · exact atMost_cons.mpr (Or.inl less)
    · -- The two records tie at the key, so they stand as they did before the pass.
      have alike : tie [key] earlier later = true :=
        tie_iff.mpr (List.forall_mem_singleton.mpr ties)
      have self := tie_self (placed earlier inEarlier earlier inEarlier)
      have kept := pair.filter (tie [key] earlier)
      rw [List.filter_cons_of_pos self, List.filter_cons_of_pos alike,
        passed.stable earlier (passed.perm.subset inEarlier)] at kept
      have before := List.pairwise_iff_forall_sublist.mp found.ordered
        (kept.trans List.filter_sublist)
      exact atMost_cons.mpr (Or.inr ⟨ties, before⟩)
  · have both : tie (key :: rest) record =
        fun other => tie rest record other && tie [key] record other := by
      funext other
      rw [tie_cons, Bool.and_comm]
    calc (sort [key] sorted).filter (tie (key :: rest) record)
        = ((sort [key] sorted).filter (tie [key] record)).filter (tie rest record) := by
          rw [List.filter_filter, both]
      _ = (sorted.filter (tie [key] record)).filter (tie rest record) := by
          rw [passed.stable record (found.perm.mem_iff.mpr present)]
      _ = (sorted.filter (tie rest record)).filter (tie [key] record) := by
          rw [List.filter_filter, List.filter_filter]
          exact List.filter_congr fun other _ => Bool.and_comm _ _
      _ = (records.filter (tie rest record)).filter (tie [key] record) := by
          rw [found.stable record present]
      _ = records.filter (tie (key :: rest) record) := by
          rw [List.filter_filter, both]
          exact List.filter_congr fun other _ => Bool.and_comm _ _

/-- One pass for every key, from the last one to the first, gives a stable sort. -/
theorem isStableSort_passes (sortable : Sortable keys records) :
    IsStableSort keys records (keys.foldr (fun key passed => sort [key] passed) records) := by
  induction keys with
  | nil =>
      refine ⟨List.Perm.refl _, ?_, fun _ _ => rfl⟩
      exact List.pairwise_of_forall fun _ _ => Or.inl (List.forall_mem_nil _)
  | cons key rest ih =>
      have further := sortable.of_subset (List.subset_cons_self key rest) (List.Subset.refl _)
      exact (ih further).pass sortable

/-- **Sorting is the stable sort by several keys.** Where no key has doubles, or both strings and
timestamps, the order of the keys is total and transitive, with null at the end of what ascends and
at the front of what descends. The sorted list is the only list of the records in that order that
keeps the order of records that tie at every key. Sorting it again changes nothing, and sorting by
the last key first, then by the one before it, and by the first key at last gives it, too. -/
theorem sort_eq_iff_isStableSort (sortable : Sortable keys records) :
    (∀ first ∈ records, ∀ second ∈ records,
      (AtMost keys first second ∨ AtMost keys second first) ∧
        ∀ third ∈ records, AtMost keys first second → AtMost keys second third →
          AtMost keys first third) ∧
      (∀ value : Value, value ≠ .null →
        compareValues .asc value .null = .lt ∧ compareValues .desc .null value = .lt) ∧
      (∀ sorted, IsStableSort keys records sorted ↔ sorted = sort keys records) ∧
      sort keys (sort keys records) = sort keys records ∧
      keys.foldr (fun key passed => sort [key] passed) records = sort keys records := by
  have placed := sortable.allPlaced
  have made := sortable.isStableSort
  have again := sortable.of_subset (List.Subset.refl keys) made.perm.subset
  refine ⟨fun first inFirst second inSecond => ⟨?_, fun third inThird => ?_⟩,
    fun _ => compareValues_null, fun _ => isStableSort_iff sortable, ?_, ?_⟩
  · exact atMost_or_atMost (placed first inFirst second inSecond)
  · exact AtMost.trans (placed first inFirst second inSecond)
      (placed second inSecond third inThird) (placed first inFirst third inThird)
  · have already : IsStableSort keys (sort keys records) (sort keys records) :=
      ⟨List.Perm.refl _, made.ordered, fun _ _ => rfl⟩
    exact ((isStableSort_iff again).mp already).symm
  · exact (isStableSort_iff sortable).mp (isStableSort_passes sortable)

/-- Kinds are mixed at the first key, one record lacks it, and two records tie at both keys and keep
their order. -/
theorem sort_eq_iff_isStableSort_mixed :
    let person (members : List (String × Value)) : Record := FieldMap.ofList members
    let keys : List SortKey := [⟨"age", .desc⟩, ⟨"name", .asc⟩]
    let first := person [("age", .int 30), ("name", .string "b"), ("id", .int 1)]
    let second := person [("age", .int 30), ("name", .string "b"), ("id", .int 2)]
    let unknown := person [("name", .string "a")]
    let spelled := person [("age", .string "thirty")]
    let records := [first, spelled, second, unknown]
    let sorted := [unknown, spelled, first, second]
    Sortable keys records ∧ IsStableSort keys records sorted ∧ sort keys sorted = sorted ∧
      sort [⟨"age", .desc⟩] (sort [⟨"name", .asc⟩] records) = sorted := by
  intro person keys first second unknown spelled records sorted
  have kinds : ∀ key ∈ keys, ∀ record ∈ records, record.value key.field = .null ∨
      (∃ n, record.value key.field = .int n) ∨ ∃ s, record.value key.field = .string s := by
    simp only [keys, records, List.mem_cons, List.not_mem_nil, or_false, forall_eq_or_imp,
      forall_eq]
    refine ⟨⟨Or.inr (Or.inl ⟨30, rfl⟩), Or.inr (Or.inr ⟨"thirty", rfl⟩),
      Or.inr (Or.inl ⟨30, rfl⟩), Or.inl rfl⟩, Or.inr (Or.inr ⟨"b", rfl⟩), Or.inl rfl,
      Or.inr (Or.inr ⟨"b", rfl⟩), Or.inr (Or.inr ⟨"a", rfl⟩)⟩
  have sortable : Sortable keys records := by
    refine ⟨fun key inKeys record inRecords x => ?_,
      fun key inKeys _ _ record inRecords _ t _ => ?_⟩ <;>
    rcases kinds key inKeys record inRecords with isNull | ⟨n, isInt⟩ | ⟨s, isString⟩ <;>
    simp [*]
  have result : sorted = sort keys records := rfl
  obtain ⟨-, -, unique, again, passes⟩ := sort_eq_iff_isStableSort sortable
  refine ⟨sortable, (unique sorted).mpr result, ?_, ?_⟩
  · rw [result]
    exact again
  · rw [result]
    exact passes

end Keyset.Sorting
