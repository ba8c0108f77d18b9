import Mathlib.Data.List.Nodup
import Keyset.Existence

/-! # Lookups that end in any order

The lookups of a batch are started together and end one by one (`Keyset.Existence.Batch.Runs`). How
far a batch has come is told by the indices of the lookups that have ended, whatever their order
(`Keyset.Existence.Batch.Runs.eq_progress`). So the answer depends on the outcomes at the places of
the ids alone (`Keyset.Existence.Batch.answer_of_runs`), and it is the one that is found by counting
for one id after the other (`Keyset.Existence.Batch.result_eq_missing`).
-/

namespace Keyset.Existence

variable {ι ε : Type}

/-! ## Settling outcomes -/

/-- The lookup has counted. -/
def Counts (outcome : Except ε Nat) : Prop :=
  ∃ count, outcome = .ok count

/-- Whether the lookup has found no record. -/
def findsNone : Except ε Nat → Bool
  | .ok 0 => true
  | _ => false

theorem settle_of_counts {outcomes : List (ι × Except ε Nat)}
    (counted : ∀ entry ∈ outcomes, Counts entry.2) :
    settle outcomes = .ok ((outcomes.filter fun entry => findsNone entry.2).map Prod.fst) := by
  induction outcomes with
  | nil => rfl
  | cons entry rest ih =>
      obtain ⟨id, outcome⟩ := entry
      obtain ⟨⟨count, rfl⟩, later⟩ := List.forall_mem_cons.mp counted
      rw [settle, ih later]
      cases count <;> rfl

/-- The outcomes behind the first failure do not count. -/
theorem settle_of_failure {front back : List (ι × Except ε Nat)} (id : ι) (cause : ε)
    (counted : ∀ entry ∈ front, Counts entry.2) :
    settle (front ++ (id, .error cause) :: back) = .error (id, cause) := by
  induction front with
  | nil => rfl
  | cons entry rest ih =>
      obtain ⟨other, outcome⟩ := entry
      obtain ⟨⟨count, rfl⟩, later⟩ := List.forall_mem_cons.mp counted
      rw [List.cons_append, settle, ih later]
      rfl

namespace Batch

/-! ## Steps and runs -/

/-- The lookup at an index has been started and has not ended. -/
def IsPending (batch : Batch ι ε) (index : Nat) : Prop :=
  ∃ id, batch[index]? = some ⟨id, none⟩

/-- Lookups of a batch end one by one, in the order of a list of indices and each with its outcome.
A lookup ends once. -/
inductive Runs (outcome : Nat → Except ε Nat) : Batch ι ε → List Nat → Batch ι ε → Prop
  | refl (batch : Batch ι ε) : Runs outcome batch [] batch
  | step {batch last : Batch ι ε} {index : Nat} {order : List Nat}
      (pending : batch.IsPending index)
      (later : Runs outcome (batch.finish index (outcome index)) order last) :
      Runs outcome batch (index :: order) last

/-- The batch of a list of ids in which the lookups at some indices have ended. -/
def progress (ids : List ι) (outcome : Nat → Except ε Nat) (ended : List Nat) : Batch ι ε :=
  ids.zipIdx.map fun entry =>
    ⟨entry.1, if entry.2 ∈ ended then some (outcome entry.2) else none⟩

variable {ids : List ι} {outcome : Nat → Except ε Nat} {ended order : List Nat} {index : Nat}
  {batch last : Batch ι ε}

theorem getElem?_progress (ids : List ι) (outcome : Nat → Except ε Nat) (ended : List Nat)
    (index : Nat) :
    (progress ids outcome ended)[index]? = ids[index]?.map fun id =>
      ⟨id, if index ∈ ended then some (outcome index) else none⟩ := by
  rw [progress, List.getElem?_map, List.getElem?_zipIdx, Option.map_map, Nat.zero_add]
  rfl

theorem progress_nil (ids : List ι) (outcome : Nat → Except ε Nat) :
    progress ids outcome [] = start ids := by
  apply List.ext_getElem?
  intro index
  rw [getElem?_progress, start, List.getElem?_map]
  rfl

theorem map_id_progress (ids : List ι) (outcome : Nat → Except ε Nat) (ended : List Nat) :
    (progress ids outcome ended).map Lookup.id = ids := by
  rw [progress, List.map_map]
  exact List.zipIdx_map_fst 0 ids

theorem isPending_progress_iff :
    (progress ids outcome ended).IsPending index ↔ index < ids.length ∧ index ∉ ended := by
  rw [IsPending, getElem?_progress]
  by_cases inside : index < ids.length
  · simp [inside]
  · simp [inside]

/-- What one step does: the lookup at its index has ended, and nothing else changes. -/
theorem finish_progress (ids : List ι) (outcome : Nat → Except ε Nat) (ended : List Nat)
    (index : Nat) :
    (progress ids outcome ended).finish index (outcome index) =
      progress ids outcome (index :: ended) := by
  apply List.ext_getElem?
  intro place
  rw [finish, List.getElem?_modify, getElem?_progress, getElem?_progress]
  cases ids[place]? with
  | none => rfl
  | some id =>
      by_cases here : index = place
      · simp [here]
      · simp [here, Ne.symm here]

/-- What a run does: the lookups of its order have ended, each of which was pending before. -/
theorem Runs.eq_progress (run : Runs outcome (progress ids outcome ended) order last) :
    last = progress ids outcome (order.reverse ++ ended) ∧ order.Nodup ∧
      ∀ index ∈ order, index < ids.length ∧ index ∉ ended := by
  induction order generalizing ended with
  | nil =>
      cases run
      exact ⟨rfl, List.nodup_nil, List.forall_mem_nil _⟩
  | cons first rest ih =>
      cases run with
      | step pending later =>
          rw [finish_progress] at later
          obtain ⟨reached, distinct, fresh⟩ := ih later
          refine ⟨?_, List.nodup_cons.mpr ⟨?_, distinct⟩, List.forall_mem_cons.mpr ⟨?_, ?_⟩⟩
          · rw [reached, List.reverse_cons, List.append_assoc, List.singleton_append]
          · intro again
            exact (fresh first again).2 List.mem_cons_self
          · exact isPending_progress_iff.mp pending
          · intro index present
            exact ⟨(fresh index present).1, List.not_mem_of_not_mem_cons (fresh index present).2⟩

/-- Lookups that have not ended can end in every order. -/
theorem exists_runs (distinct : order.Nodup)
    (pending : ∀ index ∈ order, index < ids.length ∧ index ∉ ended) :
    ∃ last, Runs outcome (progress ids outcome ended) order last := by
  induction order generalizing ended with
  | nil => exact ⟨_, .refl _⟩
  | cons first rest ih =>
      obtain ⟨absent, distinct⟩ := List.nodup_cons.mp distinct
      obtain ⟨here, later⟩ := List.forall_mem_cons.mp pending
      have fresh : ∀ index ∈ rest, index < ids.length ∧ index ∉ first :: ended := by
        intro index present
        obtain ⟨inside, notEnded⟩ := later index present
        refine ⟨inside, List.not_mem_cons_of_ne_of_not_mem ?_ notEnded⟩
        rintro rfl
        exact absent present
      obtain ⟨last, run⟩ := ih distinct fresh
      refine ⟨last, .step (isPending_progress_iff.mpr here) ?_⟩
      rwa [finish_progress]

/-! ## Answers -/

/-- The ids with the outcomes of their own lookups. -/
def outcomes (ids : List ι) (outcome : Nat → Except ε Nat) : List (ι × Except ε Nat) :=
  ids.zipIdx.map fun entry => (entry.1, outcome entry.2)

/-- There is no answer before the last lookup has ended. -/
theorem result?_of_pending (pending : batch.IsPending index) : batch.result? = none := by
  obtain ⟨id, found⟩ := pending
  have present : (⟨id, none⟩ : Lookup ι ε) ∈ batch := List.mem_of_getElem? found
  rw [result?]
  clear found
  suffices waits : (batch.mapM fun lookup =>
      lookup.outcome.map fun outcome => (lookup.id, outcome)) = none by rw [waits]; rfl
  induction batch with
  | nil => exact absurd present List.not_mem_nil
  | cons lookup rest ih =>
      rw [List.mapM_cons]
      rcases List.mem_cons.mp present with rfl | later
      · rfl
      · rw [ih later]
        cases lookup.outcome <;> rfl

theorem mapM_ended {entries : List (ι × Nat)} (each : ∀ entry ∈ entries, entry.2 ∈ ended) :
    ((entries.map fun entry => (⟨entry.1,
        if entry.2 ∈ ended then some (outcome entry.2) else none⟩ : Lookup ι ε)).mapM
      fun lookup => lookup.outcome.map fun outcome => (lookup.id, outcome)) =
      some (entries.map fun entry => (entry.1, outcome entry.2)) := by
  induction entries with
  | nil => rfl
  | cons entry rest ih =>
      obtain ⟨here, later⟩ := List.forall_mem_cons.mp each
      rw [List.map_cons, List.mapM_cons, ih later, if_pos here]
      rfl

theorem result?_progress (all : ∀ index < ids.length, index ∈ ended) :
    (progress ids outcome ended).result? = some (settle (outcomes ids outcome)) := by
  rw [result?, progress, mapM_ended, outcomes]
  · rfl
  · intro entry present
    exact all entry.2 (List.snd_lt_of_mem_zipIdx present)

/-- When all lookups of a run have ended, the outcomes at the places of the ids are settled. -/
theorem Runs.result? (run : Runs outcome (start ids) order batch)
    (all : ∀ index < ids.length, index ∈ order) :
    batch.result? = some (settle (outcomes ids outcome)) := by
  rw [← progress_nil ids outcome] at run
  rw [run.eq_progress.1]
  apply result?_progress
  intro index inside
  exact List.mem_append_left _ (List.mem_reverse.mpr (all index inside))

theorem settle_outcomes_of_counts (counted : ∀ index < ids.length, Counts (outcome index)) :
    settle (outcomes ids outcome) =
      .ok ((ids.zipIdx.filter fun entry => findsNone (outcome entry.2)).map Prod.fst) := by
  rw [settle_of_counts, outcomes, List.filter_map, List.map_map]
  · rfl
  · intro entry present
    obtain ⟨place, listed, rfl⟩ := List.mem_map.mp present
    exact counted place.2 (List.snd_lt_of_mem_zipIdx listed)

theorem settle_outcomes_of_failure {id : ι} {cause : ε} (here : ids[index]? = some id)
    (failed : outcome index = .error cause)
    (counted : ∀ earlier < index, Counts (outcome earlier)) :
    settle (outcomes ids outcome) = .error (id, cause) := by
  obtain ⟨inside, rfl⟩ := List.getElem?_eq_some_iff.mp here
  have length : index < (outcomes ids outcome).length := by
    rwa [outcomes, List.length_map, List.length_zipIdx]
  have entry : (outcomes ids outcome)[index] = (ids[index], .error cause) := by
    simp [outcomes, failed]
  rw [← List.take_append_drop index (outcomes ids outcome), List.drop_eq_getElem_cons length, entry]
  apply settle_of_failure
  intro earlier present
  obtain ⟨place, bound, rfl⟩ := List.mem_take_iff_getElem.mp present
  have before : place < index := Nat.lt_of_lt_of_le bound (Nat.min_le_left _ _)
  simpa [outcomes] using counted place before

/-- **The answer of a batch.** However far the lookups of a batch have come, there is one for every
id, and those that have not ended can end in every order. There is no answer before the last one has
ended. If all have counted, then the answer is the list of the ids whose own lookups found no
record, in the order of the ids; otherwise it is the error of the first id whose lookup failed, with
the cause of that failure. The order in which the lookups ended makes no difference. -/
theorem answer_of_runs (idText : ι → String) (causeText : ε → String)
    (run : Runs outcome (start ids) order batch) :
    batch.map Lookup.id = ids ∧ order.Nodup ∧ (∀ index ∈ order, index < ids.length) ∧
      (∀ rest, (order ++ rest).Perm (List.range ids.length) →
        ∃ last, Runs outcome batch rest last) ∧
      ((∃ index < ids.length, index ∉ order) → batch.answer? idText causeText = none) ∧
      ((∀ index < ids.length, index ∈ order) →
        ((∀ index < ids.length, Counts (outcome index)) →
          batch.answer? idText causeText =
            some (.ok ((ids.zipIdx.filter fun entry => findsNone (outcome entry.2)).map
              Prod.fst))) ∧
          ∀ index id cause, ids[index]? = some id → outcome index = .error cause →
            (∀ earlier < index, Counts (outcome earlier)) →
              batch.answer? idText causeText = some (.error ⟨idText id, causeText cause⟩)) := by
  have settled := run.result?
  rw [← progress_nil ids outcome] at run
  obtain ⟨reached, distinct, inside⟩ := run.eq_progress
  rw [List.append_nil] at reached
  refine ⟨?_, distinct, fun index present => (inside index present).1, ?_, ?_, ?_⟩
  · rw [reached, map_id_progress]
  · intro rest perm
    obtain ⟨-, restDistinct, disjoint⟩ := List.nodup_append.mp (perm.nodup_iff.mpr List.nodup_range)
    rw [reached]
    apply exists_runs restDistinct
    intro index present
    refine ⟨List.mem_range.mp (perm.subset (List.mem_append_right _ present)), fun ended => ?_⟩
    exact disjoint index (List.mem_reverse.mp ended) index present rfl
  · rintro ⟨index, bound, absent⟩
    have pending : batch.IsPending index := by
      rw [reached, isPending_progress_iff, List.mem_reverse]
      exact ⟨bound, absent⟩
    rw [answer?, result?_of_pending pending]
    rfl
  · intro all
    rw [answer?, settled all]
    constructor
    · intro counted
      rw [settle_outcomes_of_counts counted]
      rfl
    · intro index id cause here failed counted
      rw [settle_outcomes_of_failure here failed counted]
      rfl

/-- What the lookups of four ids end with: the second and the third one fail. -/
def twoFailures : Nat → Except String Nat
  | 1 => .error "no connection"
  | 2 => .error "timed out"
  | 3 => .ok 2
  | _ => .ok 0

/-- The third lookup is the first one to end, but it is the second id that the error names. -/
theorem answer_of_runs_two_failures :
    ∃ batch : Batch String String,
      Runs twoFailures (start ["a", "b", "a", "c"]) [2, 0, 3, 1] batch ∧
        batch.answer? (fun id => id) (fun cause => cause) =
          some (.error ⟨"b", "no connection"⟩) := by
  have run : Runs twoFailures (start ["a", "b", "a", "c"]) [2, 0, 3, 1]
      [⟨"a", some (.ok 0)⟩, ⟨"b", some (.error "no connection")⟩,
        ⟨"a", some (.error "timed out")⟩, ⟨"c", some (.ok 2)⟩] :=
    .step ⟨"a", rfl⟩ (.step ⟨"a", rfl⟩ (.step ⟨"c", rfl⟩ (.step ⟨"b", rfl⟩ (.refl _))))
  obtain ⟨-, -, -, -, -, answer⟩ := answer_of_runs (fun id => id) (fun cause => cause) run
  refine ⟨_, run, (answer (by decide)).2 1 "b" "no connection" rfl rfl ?_⟩
  intro earlier before
  obtain rfl := Nat.lt_one_iff.mp before
  exact ⟨0, rfl⟩

/-- Where the outcome of a lookup depends on its id only, every order of their ends gives what is
found by counting for one id after the other. -/
theorem result_eq_missing {count : ι → Except ε Nat} (run : Runs outcome (start ids) order batch)
    (all : ∀ index < ids.length, index ∈ order)
    (counts : ∀ index id, ids[index]? = some id → outcome index = count id) :
    batch.result? = some (missing ids count) := by
  rw [run.result? all, missing, outcomes, ← List.zipIdx_map_fst 0 ids, List.map_map,
    List.zipIdx_map_fst 0 ids]
  refine congrArg (fun found => some (settle found)) (List.map_congr_left fun entry present => ?_)
  have here : ids[entry.2]? = some entry.1 := List.mem_zipIdx_iff_getElem?.mp present
  exact congrArg (Prod.mk entry.1) (counts entry.2 entry.1 here)

end Batch

end Keyset.Existence
