import Keyset.Proofs.Filter.Answer

/-! # Predicates for the two ways to store lists

A store with lists gets a predicate that does not depend on the declarations
(`Keyset.Filter.toPredicate_native`). A store that keeps lists as text gets the same predicate, in
which the comparisons of declared lists are spelled out by patterns
(`Keyset.Filter.toPredicate_delimited`).
-/

namespace Keyset

namespace Predicate

section SpelledOut

variable (declarations : Declarations)

mutual

/-- The predicate with the comparisons of declared lists spelled out by patterns. -/
def spelledOut : Predicate → Predicate
  | unconstrained => unconstrained
  | and parts => and (spelledOutAll parts)
  | or parts => or (spelledOutAll parts)
  | not part => not (spelledOut part)
  | compare field op value =>
    (Filter.containment? declarations .delimited field op value).getD (compare field op value)
  | global op value => global op value
  | within field op parts => within field op (spelledOutAll parts)

def spelledOutAll : List Predicate → List Predicate
  | [] => []
  | part :: rest => spelledOut part :: spelledOutAll rest

end

theorem spelledOutAll_eq_map (parts : List Predicate) :
    spelledOutAll declarations parts = parts.map (spelledOut declarations) := by
  induction parts with
  | nil => rfl
  | cons part rest ih => rw [spelledOutAll, List.map_cons, ih]

end SpelledOut

end Predicate

namespace Filter

section Strategies

variable (declarations : Declarations)

/-- Patterns stand for membership in a declared list and for its opposite. -/
theorem containment?_cases (field : String) (op : Operator) (value : Value) :
    containment? declarations .delimited field op value = none ∨ op = .isIn ∨ op = .notIn := by
  unfold containment?
  split
  · split
    · cases op
      case isIn => exact Or.inr (Or.inl rfl)
      case notIn => exact Or.inr (Or.inr rfl)
      all_goals exact Or.inl rfl
    · exact Or.inl rfl
  · exact Or.inl rfl

theorem containment?_isIn {field : String} (listed : declarations.isList field) (value : Value) :
    ∃ parts, containment? declarations .delimited field .isIn value = some (.or parts) := by
  unfold Declarations.isList at listed
  unfold containment?
  cases declared : declarations.type? field with
  | none =>
      rw [declared] at listed
      cases listed
  | some type =>
      rw [declared] at listed
      dsimp only at listed ⊢
      rw [if_pos listed]
      exact ⟨_, rfl⟩

theorem leafPredicate_native (field : String) (op : Operator) (value : Value) :
    leafPredicate declarations .native field op value =
      (checkOperator op).map fun _ => .compare field op value := by
  rw [leafPredicate, containment?_eq_none (Or.inl rfl)]

theorem leafPredicate_delimited (field : String) (op : Operator) (value : Value) :
    leafPredicate declarations .delimited field op value =
      (leafPredicate declarations .native field op value).map
        (Predicate.spelledOut declarations) := by
  rw [leafPredicate_native, leafPredicate]
  cases found : containment? declarations .delimited field op value with
  | some patterns =>
      have known : checkOperator op = .ok () := by
        rcases containment?_cases declarations field op value with none | rfl | rfl
        · rw [found] at none
          cases none
        · rfl
        · rfl
      rw [known]
      change _ = Except.ok _
      rw [Predicate.spelledOut, found]
      rfl
  | none =>
      cases checkOperator op with
      | error cause => rfl
      | ok known =>
          change _ = Except.ok _
          rw [Predicate.spelledOut, found]
          rfl

theorem combined_spelledOut (op : Operator) (parts : List Predicate) :
    combined op (parts.map (Predicate.spelledOut declarations)) =
      (combined op parts).map (Predicate.spelledOut declarations) := by
  have all := Predicate.spelledOutAll_eq_map declarations parts
  cases op with
  | and =>
      change Except.ok _ = Except.ok _
      rw [Predicate.spelledOut, all]
  | or =>
      change Except.ok _ = Except.ok _
      rw [Predicate.spelledOut, all]
  | not =>
      match parts with
      | [] => rfl
      | [part] => rfl
      | first :: second :: rest =>
          change Except.ok _ = Except.ok _
          rw [Predicate.spelledOut, Predicate.spelledOut, all]
          rfl
  | _ => rfl

theorem toPredicateWithin_delimited (levels : Nat) (node : Filter) :
    toPredicateWithin declarations .delimited levels node =
      (toPredicateWithin declarations .native levels node).map
        (Predicate.spelledOut declarations) := by
  -- On the levels that are left: the children are compiled with one level less.
  induction levels generalizing node with
  | zero => rfl
  | succ levels ih =>
      rw [toPredicateWithin, toPredicateWithin]
      cases node.shape with
      | empty => rfl
      | global op value =>
          dsimp only
          cases checkOperator op with
          | error cause => rfl
          | ok known => rfl
      | leaf field op value => exact leafPredicate_delimited declarations field op node.parsedValue
      | combine op children =>
          have parts := mapM_eq_map fun child (_ : child ∈ children) => ih child
          dsimp only
          rw [parts]
          cases children.mapM (toPredicateWithin declarations .native levels) with
          | error cause => rfl
          | ok parts => exact combined_spelledOut declarations op parts
      | grouped field op children =>
          have parts := mapM_eq_map fun child (_ : child ∈ children) => ih child
          dsimp only
          rw [parts]
          cases checkOperator op with
          | error cause => rfl
          | ok known =>
              cases children.mapM (toPredicateWithin declarations .native levels) with
              | error cause => rfl
              | ok parts =>
                  change Except.ok _ = Except.ok _
                  rw [Predicate.spelledOut, Predicate.spelledOutAll_eq_map]

/-- A store that keeps lists as text gets the predicate of a store with lists, the comparisons of
declared lists being spelled out; it gets none for the same reason. -/
theorem toPredicate_delimited (filter : Filter) :
    filter.toPredicate declarations .delimited =
      (filter.toPredicate declarations .native).map (Predicate.spelledOut declarations) :=
  toPredicateWithin_delimited declarations _ filter

theorem toPredicateWithin_native (others : Declarations) (levels : Nat) (node : Filter) :
    toPredicateWithin declarations .native levels node =
      toPredicateWithin others .native levels node := by
  induction levels generalizing node with
  | zero => rfl
  | succ levels ih =>
      have below : toPredicateWithin declarations .native levels =
          toPredicateWithin others .native levels := funext ih
      rw [toPredicateWithin, toPredicateWithin, below]
      cases node.shape with
      | leaf field op value =>
          dsimp only
          rw [leafPredicate_native, leafPredicate_native]
      | _ => rfl

/-- A store with lists gets the same predicate, or none for the same reason, whatever is
declared. -/
theorem toPredicate_native (others : Declarations) (filter : Filter) :
    filter.toPredicate declarations .native = filter.toPredicate others .native :=
  toPredicateWithin_native declarations others _ filter

end Strategies

end Filter

end Keyset
