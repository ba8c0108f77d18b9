import Keyset.Command.Run
import Keyset.Proofs.Existence.Batch
import Keyset.Proofs.Filter.Strategy
import Keyset.Proofs.Predicate.Strings

/-! # Which ids a store lacks

A lookup of an id in a store counts the records whose value of the id field compares as equal to the
id, whatever type the field is declared with (`Keyset.Existence.countId_eq`), so it never fails. The
ids that are missing are those without such a record (`Keyset.Existence.missingFrom_eq`). Where the
records have strings for ids, these are the strings that are not among them, and neither the order
nor the repetitions of the records play a part (`Keyset.Existence.missing_in_store`). The lookups may
end in any order (`Keyset.Existence.answer?_of_store`).
-/

namespace Keyset

/-- The filter of an id compares the id field, even where that is declared a list. -/
theorem Filter.toPredicate_ofId (declarations : Declarations) (idField : String) (id : Value) :
    (Filter.ofId idField id).toPredicate declarations .delimited =
      .ok (.compare idField .eq id) := by
  change leafPredicate declarations .delimited idField .eq id = _
  rw [leafPredicate]
  rcases containment?_cases declarations idField .eq id with none | same | same
  · rw [none]
    rfl
  · cases same
  · cases same

namespace Existence

section Count

variable {ι ε : Type}

/-- Where no lookup fails, the ids of count zero are missing. -/
theorem missing_of_counts (ids : List ι) (count : ι → Nat) :
    missing ids (fun id => (.ok (count id) : Except ε Nat)) =
      .ok (ids.filter fun id => decide (count id = 0)) := by
  rw [missing, settle_of_counts, List.filter_map, List.map_map]
  · have zero : ∀ id ∈ ids, findsNone (.ok (count id) : Except ε Nat) = decide (count id = 0) := by
      intro id _
      cases count id <;> rfl
    rw [show (Prod.fst ∘ fun id => (id, (.ok (count id) : Except ε Nat))) = id from rfl,
      List.map_id]
    exact congrArg Except.ok (List.filter_congr zero)
  · intro entry present
    obtain ⟨id, _, rfl⟩ := List.mem_map.mp present
    exact ⟨count id, rfl⟩

end Count

variable (declarations : Declarations) (idField : String)

/-- The records with an id are counted, and every record has an answer. -/
theorem countId_eq (store : List Record) (id : Value) :
    countId declarations idField store id =
      .ok (store.filter fun record => Predicate.areEqual (record.value idField) id).length := by
  have selected : (Predicate.compare idField .eq id).select store =
      .ok (store.filter fun record => Predicate.areEqual (record.value idField) id) :=
    Predicate.select_eq_filter _ fun _ _ => rfl
  rw [countId, Filter.toPredicate_ofId]
  change (countMatching (.compare idField .eq id) store).mapError LookupError.eval = _
  rw [countMatching, selected]
  rfl

/-- The ids that no record has are missing, and no lookup fails. -/
theorem missingFrom_eq (store : List Record) (ids : List Value) :
    missingFrom declarations idField store ids =
      .ok (ids.filter fun id =>
        decide (∀ record ∈ store, (record.value idField).compare id ≠ some .eq)) := by
  have lookups : countId declarations idField store = fun id =>
      .ok (store.filter fun record => Predicate.areEqual (record.value idField) id).length :=
    funext (countId_eq declarations idField store)
  rw [missingFrom, lookups, missing_of_counts]
  refine congrArg Except.ok (List.filter_congr fun id _ => decide_eq_decide.mpr ?_)
  rw [List.length_eq_zero_iff, List.filter_eq_nil_iff]
  simp only [Predicate.areEqual, beq_iff_eq, ne_eq]

theorem missingFrom_strings (store : List Record) (ids : List String) :
    missingFrom declarations idField store (ids.map .string) =
      .ok ((ids.filter fun id => decide (∀ record ∈ store,
        (record.value idField).compare (.string id) ≠ some .eq)).map .string) := by
  rw [missingFrom_eq, List.filter_map]
  rfl

/-- The records of a list of ids, each with its id only. -/
def recordsOfIds (ids : List String) : List Record :=
  ids.map fun id => FieldMap.ofList [(idField, Value.string id)]

theorem compare_ids_eq_iff (first second : String) :
    (Record.value (FieldMap.ofList [(idField, Value.string first)]) idField).compare
      (.string second) = some .eq ↔ first = second := by
  have value : Record.value (FieldMap.ofList [(idField, Value.string first)]) idField =
      .string first := by
    rw [Record.value, FieldMap.ofList, List.foldl_cons, List.foldl_nil, FieldMap.get?_insert,
      if_pos rfl]
    rfl
  rw [value, ← beq_iff_eq, ← decide_eq_true_iff (p := first = second)]
  exact iff_of_eq (congrArg (· = true) (Predicate.areEqual_string first second))

/-- Of the records of a list of ids, only the elements of the list count. -/
theorem missingFrom_recordsOfIds {existing kept : List String}
    (same : ∀ id, id ∈ kept ↔ id ∈ existing) (ids : List String) :
    missingFrom declarations idField (recordsOfIds idField kept) (ids.map .string) =
      .ok ((ids.filter fun id => decide (id ∉ existing)).map .string) := by
  rw [missingFrom_strings]
  refine congrArg (fun absent => Except.ok (absent.map Value.string))
    (List.filter_congr fun id _ => decide_eq_decide.mpr ?_)
  simp only [recordsOfIds, List.forall_mem_map, ne_eq, compare_ids_eq_iff]
  rw [← same]
  constructor
  · intro differ present
    exact differ id present rfl
  · intro absent other present equal
    exact absent (equal ▸ present)

/-- **Which ids are missing.** A store is asked for a list of strings. Whatever its records are and
whatever type the id field is declared with, the check succeeds, and its answer is the list of those
strings that no record's value of the field compares as equal to, in their order and with their
repetitions. In a store of records that have strings for ids, whatever their order and their
repetitions, these are the strings that are not among the ids; and so they are for the command. -/
theorem missing_in_store (ids : List String) :
    (∀ store, missingFrom declarations idField store (ids.map .string) =
      .ok ((ids.filter fun id => decide (∀ record ∈ store,
        (record.value idField).compare (.string id) ≠ some .eq)).map .string)) ∧
      (∀ existing kept : List String, (∀ id, id ∈ kept ↔ id ∈ existing) →
        missingFrom declarations idField (recordsOfIds idField kept) (ids.map .string) =
          .ok ((ids.filter fun id => decide (id ∉ existing)).map .string)) ∧
      ∀ config existing, Command.run config (.missing ids existing) =
        .ok (Command.missingLine ((ids.filter fun id => decide (id ∉ existing)).map .string)) := by
  refine ⟨fun store => missingFrom_strings declarations idField store ids,
    fun existing kept same => missingFrom_recordsOfIds declarations idField same ids, ?_⟩
  intro config existing
  have absent := missingFrom_recordsOfIds config.attributes config.idField
    (fun id => Iff.rfl (a := id ∈ existing)) ids
  rw [recordsOfIds] at absent
  simp only [Command.run, absent]
  rfl

/-- The field is declared a list, one id is kept twice, and another one is asked for twice. -/
theorem missing_in_store_listed :
    (∀ id, id ∈ ["c", "a"] ↔ id ∈ ["a", "c", "a"]) ∧
      missingFrom (FieldMap.ofList [("uuid", "[String]")]) "uuid" (recordsOfIds "uuid" ["c", "a"])
        (["b", "a", "b"].map .string) = .ok (["b", "b"].map .string) := by
  have same : ∀ id, id ∈ ["c", "a"] ↔ id ∈ ["a", "c", "a"] := by
    intro id
    simp [or_comm]
  have absent := (missing_in_store (FieldMap.ofList [("uuid", "[String]")]) "uuid"
    ["b", "a", "b"]).2.1 ["a", "c", "a"] ["c", "a"] same
  exact ⟨same, absent.trans rfl⟩

/-- The lookups in a store may end in any order. -/
theorem answer?_of_store {ids : List Value} {store : List Record}
    {outcome : Nat → Except LookupError Nat} {order : List Nat} {batch : Batch Value LookupError}
    (run : Batch.Runs outcome (Batch.start ids) order batch)
    (all : ∀ index < ids.length, index ∈ order)
    (counts : ∀ index id, ids[index]? = some id →
      outcome index = countId declarations idField store id) :
    batch.answer? Value.rawText LookupError.message =
      some (missingFrom declarations idField store ids) := by
  rw [Batch.answer?, Batch.result_eq_missing run all counts]
  rfl

end Existence

end Keyset
