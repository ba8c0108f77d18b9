import Keyset.Predicate.Eval
import Keyset.Proofs.Traversal

/-! # Answers of predicates

Where the parts of a predicate have answers, so has the predicate. Leaving out the parts of a
conjunction that are no constraint, and unwrapping a single part, changes no answer and no error
(`Keyset.Predicate.eval_andAll`). A predicate that has an answer on every record of a store selects
the records by filtering (`Keyset.Predicate.select_eq_filter`), so that the order of the store only
orders the selection (`Keyset.Predicate.select_perm`).
-/

namespace Keyset

namespace Predicate

variable (record : Record)

theorem evalAll_of_map_eq {parts : List Predicate} {answers : List Bool}
    (each : parts.map (eval record) = answers.map Except.ok) :
    evalAll record parts = .ok (answers.all id) := by
  induction parts generalizing answers with
  | nil =>
      obtain rfl := List.map_eq_nil_iff.mp each.symm
      rfl
  | cons part rest ih =>
      obtain ⟨passes, follow, rfl, here, later⟩ := List.map_eq_cons_iff.mp each.symm
      rw [evalAll, ← here, ih later.symm]
      cases passes <;> rfl

theorem evalAny_of_map_eq {parts : List Predicate} {answers : List Bool}
    (each : parts.map (eval record) = answers.map Except.ok) :
    evalAny record parts = .ok (answers.any id) := by
  induction parts generalizing answers with
  | nil =>
      obtain rfl := List.map_eq_nil_iff.mp each.symm
      rfl
  | cons part rest ih =>
      obtain ⟨passes, follow, rfl, here, later⟩ := List.map_eq_cons_iff.mp each.symm
      rw [evalAny, ← here, ih later.symm]
      cases passes <;> rfl

theorem eval_and_pair (first second : Predicate) {passes follows : Bool}
    (firstEval : first.eval record = .ok passes) (secondEval : second.eval record = .ok follows) :
    (and [first, second]).eval record = .ok (passes && follows) := by
  have each : [first, second].map (eval record) = [passes, follows].map Except.ok := by
    simp [firstEval, secondEval]
  rw [eval, evalAll_of_map_eq record each]
  simp

theorem eval_or_pair (first second : Predicate) {passes follows : Bool}
    (firstEval : first.eval record = .ok passes) (secondEval : second.eval record = .ok follows) :
    (or [first, second]).eval record = .ok (passes || follows) := by
  have each : [first, second].map (eval record) = [passes, follows].map Except.ok := by
    simp [firstEval, secondEval]
  rw [eval, evalAny_of_map_eq record each]
  simp

theorem evalAll_singleton (part : Predicate) : evalAll record [part] = eval record part := by
  rw [evalAll]
  cases eval record part with
  | error error => rfl
  | ok hit => cases hit <;> rfl

theorem evalAll_filter (parts : List Predicate) :
    evalAll record (parts.filter fun part => !part.isUnconstrained) = evalAll record parts := by
  induction parts with
  | nil => rfl
  | cons part rest ih =>
      cases constraint : part.isUnconstrained with
      | false =>
          rw [List.filter_cons_of_pos (by simp [constraint]), evalAll, evalAll, ih]
      | true =>
          have free : part = unconstrained := by
            cases part <;> first | rfl | contradiction
          rw [List.filter_cons_of_neg (by simp [constraint]), ih, free]
          rfl

theorem eval_andAll (parts : List Predicate) :
    eval record (andAll parts) = evalAll record parts := by
  rw [← evalAll_filter, andAll]
  split
  next none => rw [none]; rfl
  next part single => rw [single, evalAll_singleton]
  next => rfl

variable {record} {predicate : Predicate}

/-- Whether a record satisfies a predicate that has an answer on it. -/
def isHit (predicate : Predicate) (record : Record) : Bool :=
  (predicate.eval record).toOption.getD false

theorem eval_of_defined (defined : ∃ hit, predicate.eval record = .ok hit) :
    predicate.eval record = .ok (predicate.isHit record) := by
  obtain ⟨hit, evaluates⟩ := defined
  rw [isHit, evaluates]
  rfl

theorem select_eq_filter (predicate : Predicate) {hit : Record → Bool} {records : List Record}
    (evaluates : ∀ record ∈ records, predicate.eval record = .ok (hit record)) :
    predicate.select records = .ok (records.filter hit) := by
  induction records with
  | nil => rfl
  | cons record rest ih =>
      obtain ⟨here, later⟩ := List.forall_mem_cons.mp evaluates
      simp only [select, here, ih later, bind, Except.bind, List.filter_cons]

/-- A predicate that selects from a store has an answer on all its records. -/
theorem eval_of_select {records hits : List Record}
    (selected : predicate.select records = .ok hits) :
    ∀ record ∈ records, predicate.eval record = .ok (predicate.isHit record) := by
  induction records generalizing hits with
  | nil => exact fun _ absent => absurd absent List.not_mem_nil
  | cons record rest ih =>
      rw [select] at selected
      obtain ⟨hit, here, selected⟩ := of_bind selected
      obtain ⟨others, later, _⟩ := of_bind selected
      exact List.forall_mem_cons.mpr ⟨eval_of_defined ⟨hit, here⟩, ih later⟩

/-- From the records of a store in any other order, the same records are selected. -/
theorem select_perm {records store hits : List Record} (same : store.Perm records)
    (selected : predicate.select records = .ok hits) :
    ∃ found, predicate.select store = .ok found ∧ found.Perm hits := by
  have evaluates := eval_of_select selected
  have filtered := predicate.select_eq_filter evaluates
  have onStore : ∀ record ∈ store, predicate.eval record = .ok (predicate.isHit record) :=
    fun record member => evaluates record (same.subset member)
  refine ⟨store.filter predicate.isHit, predicate.select_eq_filter onStore, ?_⟩
  obtain rfl := Except.ok.inj (filtered.symm.trans selected)
  exact same.filter _

end Predicate

end Keyset
