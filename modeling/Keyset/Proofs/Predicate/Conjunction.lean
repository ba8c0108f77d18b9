import Keyset.Proofs.Predicate.Eval

/-! # Conjunctions

The parts of a conjunction are asked from left to right, up to the first that is not true
(`Keyset.Predicate.Conjoined`): if that one is false, so is the conjunction, and if it cannot be
evaluated, its error is that of the conjunction. Parts may be joined in blocks first and the blocks
then, and parts that are no constraint may be put anywhere, with the same answer or the same error
on every record (`Keyset.Predicate.eval_andAll_grouped`).
-/

namespace Keyset

namespace Predicate

/-- What comes of parts that are asked from left to right. A part that is true leaves the outcome
to the parts behind it, and any other part decides it, whatever stands behind. -/
inductive Conjoined (record : Record) : List Predicate → Except EvalError Bool → Prop
  | nothing : Conjoined record [] (.ok true)
  | passed {part : Predicate} {rest : List Predicate} {outcome : Except EvalError Bool}
      (holds : part.eval record = .ok true) (later : Conjoined record rest outcome) :
      Conjoined record (part :: rest) outcome
  | decided {part : Predicate} {outcome : Except EvalError Bool} (rest : List Predicate)
      (here : part.eval record = outcome) (stops : outcome ≠ .ok true) :
      Conjoined record (part :: rest) outcome

variable {record : Record}

theorem evalAll_cons_of_true {part : Predicate} (holds : part.eval record = .ok true)
    (rest : List Predicate) : evalAll record (part :: rest) = evalAll record rest := by
  rw [evalAll, holds]
  rfl

theorem evalAll_cons_of_ne_true {part : Predicate} (stops : part.eval record ≠ .ok true)
    (rest : List Predicate) : evalAll record (part :: rest) = part.eval record := by
  rw [evalAll]
  cases here : part.eval record with
  | error error => rfl
  | ok hit =>
      cases hit with
      | false => rfl
      | true => exact absurd here stops

theorem conjoined_evalAll (record : Record) (parts : List Predicate) :
    Conjoined record parts (evalAll record parts) := by
  induction parts with
  | nil => exact .nothing
  | cons part rest ih =>
      by_cases holds : part.eval record = .ok true
      · rw [evalAll_cons_of_true holds]
        exact .passed holds ih
      · rw [evalAll_cons_of_ne_true holds]
        exact .decided rest rfl holds

theorem Conjoined.evalAll_eq {parts : List Predicate} {outcome : Except EvalError Bool}
    (conjoined : Conjoined record parts outcome) : evalAll record parts = outcome := by
  induction conjoined with
  | nothing => rfl
  | passed holds _ ih => rw [evalAll_cons_of_true holds, ih]
  | decided rest here stops =>
      subst here
      exact evalAll_cons_of_ne_true stops rest

theorem evalAll_eq_iff_conjoined {parts : List Predicate} {outcome : Except EvalError Bool} :
    evalAll record parts = outcome ↔ Conjoined record parts outcome := by
  constructor
  · rintro rfl
    exact conjoined_evalAll record parts
  · exact Conjoined.evalAll_eq

/-- The parts behind are asked if all in front are true. -/
theorem evalAll_append (front back : List Predicate) :
    evalAll record (front ++ back) =
      (do if ← evalAll record front then evalAll record back else .ok false) := by
  induction front with
  | nil => rfl
  | cons part rest ih =>
      rw [List.cons_append, evalAll, evalAll, ih]
      cases part.eval record with
      | error error => rfl
      | ok hit => cases hit <;> rfl

/-- Blocks of parts are asked as all their parts are. -/
theorem evalAll_map_andAll (blocks : List (List Predicate)) :
    evalAll record (blocks.map andAll) = evalAll record blocks.flatten := by
  induction blocks with
  | nil => rfl
  | cons block rest ih =>
      rw [List.map_cons, List.flatten_cons, evalAll, eval_andAll, ih, evalAll_append]

/-- **Conjunctions do not depend on grouping.** On every record a conjunction of parts comes to what
its parts come to from left to right, an answer or an error, as it does with all of them kept. A
part that is no constraint makes no difference wherever it stands, and neither does joining
consecutive blocks of the parts before joining all. -/
theorem eval_andAll_grouped (record : Record) :
    (∀ parts outcome, (andAll parts).eval record = outcome ↔ Conjoined record parts outcome) ∧
      (∀ parts, (andAll parts).eval record = (and parts).eval record) ∧
      (∀ front back, andAll (front ++ unconstrained :: back) = andAll (front ++ back)) ∧
      ∀ blocks : List (List Predicate),
        (andAll (blocks.map andAll)).eval record = (andAll blocks.flatten).eval record := by
  refine ⟨fun parts outcome => ?_, fun parts => ?_, andAll_append_unconstrained, fun blocks => ?_⟩
  · rw [eval_andAll]
    exact evalAll_eq_iff_conjoined
  · rw [eval_andAll, eval]
  · rw [eval_andAll, eval_andAll, evalAll_map_andAll]

/-- A part without an answer is not asked behind a block that is false. -/
example (record : Record) :
    (andAll [andAll [unconstrained, or []], andAll [global .eq .null]]).eval record = .ok false :=
  rfl

end Predicate

end Keyset
