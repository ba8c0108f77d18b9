import Keyset.Proofs.Filter.Strategy

/-! # Which filters have a predicate

The nodes that count are those that are reached from the root through combinations and groups. A
filter has a predicate iff each of them is at most sixty-four levels below the root and has an
operator that predicates know in its place. What is declared, and how a store keeps its lists, has
no say in it, nor in the reason why a filter has none (`Keyset.Filter.toPredicate_outcome`).
-/

namespace Keyset.Filter

/-- The operators that no predicate has. -/
def unknownOperators : List Operator :=
  [.contains, .containsKey, .tokenLt, .tokenGt]

/-- The operators that join predicates. -/
def joiningOperators : List Operator :=
  [.and, .or, .not]

namespace Shape

/-- The nodes right below a node of that shape. -/
def children : Shape → List Filter
  | .combine _ children => children
  | .grouped _ _ children => children
  | _ => []

/-- The operator of a node of that shape is one that predicates have in its place. -/
def IsKnown : Shape → Prop
  | .empty => True
  | .global op _ => op ∉ unknownOperators
  | .leaf _ op _ => op ∉ unknownOperators
  | .combine op _ => op ∈ joiningOperators
  | .grouped _ op _ => op ∉ unknownOperators

end Shape

/-- A node counts in a filter, so many levels below the root. -/
inductive Reaches : Filter → Nat → Filter → Prop
  | root (node : Filter) : Reaches node 0 node
  | under {node child found : Filter} {depth : Nat} (inChildren : child ∈ node.shape.children)
      (reached : Reaches child depth found) : Reaches node (depth + 1) found

theorem forall_reaches_iff {node : Filter} {holds : Nat → Filter → Prop} :
    (∀ depth found, Reaches node depth found → holds depth found) ↔
      holds 0 node ∧ ∀ child ∈ node.shape.children, ∀ depth found,
        Reaches child depth found → holds (depth + 1) found := by
  constructor
  · intro all
    refine ⟨all 0 node (.root node), ?_⟩
    intro child inChildren depth found reached
    exact all (depth + 1) found (.under inChildren reached)
  · rintro ⟨here, later⟩ depth found reached
    cases reached with
    | root => exact here
    | under inChildren reached => exact later _ inChildren _ found reached

theorem checkOperator_eq_ok_iff {op : Operator} :
    checkOperator op = .ok () ↔ op ∉ unknownOperators := by
  cases op <;> simp [checkOperator, unknownOperators]

theorem exists_map_checkOperator_iff {op : Operator} {made : Unit → Predicate} :
    (∃ predicate, (checkOperator op).map made = .ok predicate) ↔ op ∉ unknownOperators := by
  rw [exists_map_iff, ← checkOperator_eq_ok_iff]
  exact ⟨fun ⟨_, known⟩ => known, fun known => ⟨(), known⟩⟩

theorem exists_combined_iff {op : Operator} {parts : List Predicate} :
    (∃ predicate, combined op parts = .ok predicate) ↔ op ∈ joiningOperators := by
  cases op
  case not =>
    refine iff_of_true ?_ (by decide)
    match parts with
    | [] => exact ⟨_, rfl⟩
    | [part] => exact ⟨_, rfl⟩
    | first :: second :: rest => exact ⟨_, rfl⟩
  all_goals simp [combined, joiningOperators]

section Levels

variable {declarations : Declarations}

/-- A node has a predicate if its operator is known and the nodes right below it have one. -/
theorem exists_toPredicateWithin_succ_iff (levels : Nat) (node : Filter) :
    (∃ predicate, toPredicateWithin declarations .native (levels + 1) node = .ok predicate) ↔
      node.shape.IsKnown ∧ ∀ child ∈ node.shape.children,
        ∃ predicate, toPredicateWithin declarations .native levels child = .ok predicate := by
  rw [toPredicateWithin, ← exists_mapM_iff]
  cases node.shape with
  | empty => exact iff_of_true ⟨_, rfl⟩ ⟨trivial, [], rfl⟩
  | global op value =>
      refine exists_map_checkOperator_iff.trans ?_
      exact ⟨fun known => ⟨known, [], rfl⟩, fun both => both.1⟩
  | leaf field op value =>
      dsimp only
      rw [leafPredicate_native]
      refine exists_map_checkOperator_iff.trans ?_
      exact ⟨fun known => ⟨known, [], rfl⟩, fun both => both.1⟩
  | combine op children =>
      dsimp only [Shape.IsKnown, Shape.children]
      constructor
      · rintro ⟨predicate, done⟩
        obtain ⟨parts, compiled, joined⟩ := of_bind done
        exact ⟨exists_combined_iff.mp ⟨predicate, joined⟩, parts, compiled⟩
      · rintro ⟨known, parts, compiled⟩
        obtain ⟨predicate, joined⟩ := exists_combined_iff.mpr known
        rw [compiled]
        exact ⟨predicate, joined⟩
  | grouped field op children =>
      dsimp only [Shape.IsKnown, Shape.children]
      constructor
      · rintro ⟨_, done⟩
        obtain ⟨_, known, done⟩ := of_bind done
        obtain ⟨parts, compiled, _⟩ := of_bind done
        exact ⟨checkOperator_eq_ok_iff.mp known, parts, compiled⟩
      · rintro ⟨known, parts, compiled⟩
        rw [checkOperator_eq_ok_iff.mpr known, compiled]
        exact ⟨.within field op parts, rfl⟩

theorem exists_toPredicateWithin_iff (levels : Nat) (node : Filter) :
    (∃ predicate, toPredicateWithin declarations .native levels node = .ok predicate) ↔
      ∀ depth found, Reaches node depth found → depth < levels ∧ found.shape.IsKnown := by
  -- On the levels that are left: what is reached from a child is one level deeper.
  induction levels generalizing node with
  | zero =>
      apply iff_of_false
      · rintro ⟨_, done⟩
        cases done
      · intro all
        exact Nat.not_lt_zero 0 (all 0 node (.root node)).1
  | succ levels ih =>
      rw [exists_toPredicateWithin_succ_iff, forall_reaches_iff]
      simp only [ih, Nat.succ_lt_succ_iff, Nat.zero_lt_succ, true_and]

end Levels

/-- The predicates of a filter for all declarations and stores are made from one of them. -/
theorem exists_toPredicate_eq_map (declarations : Declarations) (strategy : ArrayStrategy)
    (filter : Filter) :
    ∃ change, filter.toPredicate declarations strategy =
      (filter.toPredicate .empty .native).map change := by
  rw [toPredicate_native .empty declarations]
  cases strategy with
  | delimited => exact ⟨_, toPredicate_delimited declarations filter⟩
  | native =>
      refine ⟨id, ?_⟩
      cases filter.toPredicate declarations .native <;> rfl

/-- **Which filters have a predicate.** A filter has a predicate iff no node that counts is more
than sixty-four levels below the root, values and groups have no operator that predicates lack, and
combinations have one that joins predicates. Neither the declarations nor the strategy change that:
either a filter has a predicate for all of them, or it has none for the same reason. -/
theorem toPredicate_outcome (filter : Filter) :
    (∀ declarations strategy,
      (∃ predicate, filter.toPredicate declarations strategy = .ok predicate) ↔
        ∀ depth node, Reaches filter depth node → depth ≤ 64 ∧ node.shape.IsKnown) ∧
    ∀ declarations others strategy other,
      ((∃ predicate, filter.toPredicate declarations strategy = .ok predicate) ∧
        ∃ predicate, filter.toPredicate others other = .ok predicate) ∨
      ∃ cause, filter.toPredicate declarations strategy = .error cause ∧
        filter.toPredicate others other = .error cause := by
  have plain : (∃ predicate, filter.toPredicate .empty .native = .ok predicate) ↔
      ∀ depth node, Reaches filter depth node → depth ≤ 64 ∧ node.shape.IsKnown := by
    simp only [← Nat.lt_succ_iff]
    exact exists_toPredicateWithin_iff (maxFilterDepth + 1) filter
  constructor
  · intro declarations strategy
    obtain ⟨change, made⟩ := exists_toPredicate_eq_map declarations strategy filter
    rw [made, exists_map_iff, plain]
  · intro declarations others strategy other
    obtain ⟨change, made⟩ := exists_toPredicate_eq_map declarations strategy filter
    obtain ⟨alsoChange, alsoMade⟩ := exists_toPredicate_eq_map others other filter
    rw [made, alsoMade]
    cases filter.toPredicate .empty .native with
    | error cause => exact Or.inr ⟨cause, rfl, rfl⟩
    | ok predicate => exact Or.inl ⟨⟨_, rfl⟩, _, rfl⟩

/-- What stands below a node without operator does not count. -/
example :
    (combine .or [{ empty with children := some [leaf "id" .tokenGt (.int 5)] }]).toPredicate
      .empty .delimited = .ok (.or [.unconstrained]) := rfl

end Keyset.Filter
