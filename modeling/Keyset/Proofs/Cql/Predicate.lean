import Keyset.Proofs.Cql.Relations
import Keyset.Proofs.Filter.Strategy

/-! # A condition and a predicate of one filter

A filter that has a condition, the operators of which predicates know as well, has predicates too:
they are the relations of the condition one after the other, as comparisons
(`Keyset.Cql.predicates_of_condition`). For a store that keeps lists as text, they differ where a
declared list is asked for a member.
-/

namespace Keyset

/-- The parts of a conjunction. Any other predicate is a part by itself. -/
def Predicate.conjuncts : Predicate → List Predicate
  | and parts => parts
  | part => [part]

namespace Cql

/-- The operators that relations and predicates have in common. -/
def sharedOperators : List Operator :=
  [.eq, .lt, .gt, .lte, .gte, .isIn]

/-- The relation as a predicate. -/
def Relation.comparison (relation : Relation) : Predicate :=
  .compare relation.field relation.op relation.value

/-- The relation of a node as a predicate. A node without relation is no constraint. -/
def partComparison (node : Filter) : Predicate :=
  (relation? node).elim .unconstrained Relation.comparison

/-- The relations of a filter as a predicate. -/
def conjunction (filter : Filter) : Predicate :=
  match filter.shape with
  | .combine _ children => .and (children.map partComparison)
  | _ => partComparison filter

section Shared

variable (declarations : Declarations) {node filter : Filter}

theorem checkOperator_of_mem {op : Operator} (shared : op ∈ sharedOperators) :
    Filter.checkOperator op = .ok () := by
  simp only [sharedOperators, List.mem_cons, List.not_mem_nil, or_false] at shared
  rcases shared with rfl | rfl | rfl | rfl | rfl | rfl <;> rfl

theorem toPredicateWithin_of_isPart {levels : Nat} (enough : 0 < levels) (part : IsPart node)
    (shared : ∀ relation ∈ relation? node, relation.op ∈ sharedOperators) :
    Filter.toPredicateWithin declarations .native levels node = .ok (partComparison node) := by
  obtain ⟨levels, rfl⟩ := Nat.exists_eq_add_one.mpr enough
  obtain ⟨-, shaped | ⟨field, op, value, shaped, -⟩⟩ := part
  · rw [Filter.toPredicateWithin, partComparison, relation?, shaped]
    rfl
  · have known : Filter.checkOperator op = .ok () := by
      apply checkOperator_of_mem
      exact shared ⟨field, op, node.parsedValue⟩ (by rw [relation?, shaped]; rfl)
    rw [Filter.toPredicateWithin, partComparison, relation?, shaped]
    dsimp only
    rw [Filter.leafPredicate_native, known]
    rfl

theorem mapM_partComparison {children : List Filter} {levels : Nat} (enough : 0 < levels)
    (parts : ∀ child ∈ children, IsPart child)
    (shared : ∀ relation ∈ children.filterMap relation?, relation.op ∈ sharedOperators) :
    children.mapM (Filter.toPredicateWithin declarations .native levels) =
      .ok (children.map partComparison) := by
  apply mapM_eq_ok_map
  intro child inChildren
  apply toPredicateWithin_of_isPart declarations enough (parts child inChildren)
  intro relation found
  exact shared relation (List.mem_filterMap.mpr ⟨child, inChildren, found⟩)

theorem toPredicate_of_hasCondition (has : HasCondition filter)
    (shared : ∀ relation ∈ relations filter, relation.op ∈ sharedOperators) :
    filter.toPredicate declarations .native = .ok (conjunction filter) := by
  rcases has with part | ⟨children, shaped, parts⟩
  · have single : conjunction filter = partComparison filter ∧
        relations filter = (relation? filter).toList := by
      rcases part.2 with shaped | ⟨_, _, _, shaped, _⟩ <;>
        exact ⟨by rw [conjunction, shaped], by rw [relations, shaped]⟩
    rw [single.1]
    apply toPredicateWithin_of_isPart declarations (Nat.succ_pos _) part
    intro relation found
    exact shared relation (single.2 ▸ Option.mem_toList.mpr found)
  · have all : relations filter = children.filterMap relation? := by rw [relations, shaped]
    have deep : 0 < maxFilterDepth := by decide
    have compiled := mapM_partComparison declarations deep parts (all ▸ shared)
    rw [Filter.toPredicate, Filter.toPredicateWithin, conjunction, shaped]
    dsimp only
    rw [compiled]
    rfl

theorem filter_partComparison (children : List Filter) :
    ((children.map partComparison).filter fun part => !part.isUnconstrained) =
      (children.filterMap relation?).map Relation.comparison := by
  induction children with
  | nil => rfl
  | cons child rest ih =>
      rw [List.map_cons, List.filter_cons, ih, partComparison]
      cases found : relation? child with
      | none =>
          rw [List.filterMap_cons_none found]
          rfl
      | some relation =>
          rw [List.filterMap_cons_some found, List.map_cons]
          rfl

theorem conjuncts_conjunction (filter : Filter) :
    ((conjunction filter).conjuncts.filter fun part => !part.isUnconstrained) =
      (relations filter).map Relation.comparison := by
  have single : ((partComparison filter).conjuncts.filter fun part => !part.isUnconstrained) =
      (relation? filter).toList.map Relation.comparison := by
    rw [partComparison]
    cases relation? filter <;> rfl
  rw [conjunction, relations]
  cases filter.shape with
  | combine op children => exact filter_partComparison children
  | _ => exact single

theorem conjunct_cases {part : Predicate} (present : part ∈ (conjunction filter).conjuncts) :
    part = .unconstrained ∨ ∃ relation ∈ relations filter, part = relation.comparison := by
  by_cases free : part.isUnconstrained
  · left
    cases part <;> first | rfl | cases free
  · right
    have kept : part ∈ (conjunction filter).conjuncts.filter fun part => !part.isUnconstrained :=
      List.mem_filter.mpr ⟨present, by rw [Bool.not_eq_true] at free; rw [free]; rfl⟩
    rw [conjuncts_conjunction] at kept
    obtain ⟨relation, inFilter, rfl⟩ := List.mem_map.mp kept
    exact ⟨relation, inFilter, rfl⟩

/-- Of the comparisons, membership in a declared list is spelled out, and nothing else. -/
theorem spelledOut_comparison_ne_iff {relation : Relation}
    (shared : relation.op ∈ sharedOperators) :
    relation.comparison.spelledOut declarations ≠ relation.comparison ↔
      relation.op = .isIn ∧ declarations.isList relation.field := by
  rw [Relation.comparison, Predicate.spelledOut]
  by_cases listed : declarations.isList relation.field
  · by_cases isIn : relation.op = .isIn
    · obtain ⟨parts, found⟩ :=
        Filter.containment?_isIn declarations listed relation.value
      rw [isIn, found]
      exact ⟨fun _ => ⟨rfl, listed⟩, fun _ same => by cases same⟩
    · have none : Filter.containment? declarations .delimited relation.field relation.op
          relation.value = none := by
        rcases Filter.containment?_cases declarations relation.field relation.op relation.value with
          none | same | same
        · exact none
        · exact absurd same isIn
        · rw [same] at shared
          exact absurd shared (by decide)
      rw [none]
      exact ⟨fun differs => absurd rfl differs, fun both => absurd both.1 isIn⟩
  · rw [Filter.containment?_eq_none (Or.inr listed)]
    exact ⟨fun differs => absurd rfl differs, fun both => absurd both.2 listed⟩

/-- **A condition and its predicates say the same.** A filter that has a condition, and whose
relations have operators that predicates know as well, has a predicate under both strategies. For a
store with lists it consists of the relations of the condition, one after the other and with the
same fields, operators and values, beside empty nodes that are no constraint. For a store that keeps
lists as text it is another one only where a declared list is asked for a member. -/
theorem predicates_of_condition {allowFiltering : Bool} {text : String}
    (made : condition declarations allowFiltering filter = .ok text)
    (shared : ∀ relation ∈ relations filter, relation.op ∈ sharedOperators) :
    filter.toPredicate declarations .native = .ok (conjunction filter) ∧
      filter.toPredicate declarations .delimited =
        .ok ((conjunction filter).spelledOut declarations) ∧
      text = relationsText declarations allowFiltering (relations filter) ∧
      ((conjunction filter).conjuncts.filter fun part => !part.isUnconstrained) =
        (relations filter).map Relation.comparison ∧
      (filter.shape = .empty → conjunction filter = .unconstrained ∧ text = "") ∧
      ∀ part ∈ (conjunction filter).conjuncts, part.spelledOut declarations ≠ part ↔
        ∃ field value, part = .compare field .isIn value ∧ declarations.isList field := by
  have has := hasCondition_of_condition declarations made
  have native := toPredicate_of_hasCondition declarations has shared
  have written : text = relationsText declarations allowFiltering (relations filter) :=
    Except.ok.inj (made.symm.trans (condition_of_hasCondition declarations allowFiltering has))
  refine ⟨native, ?_, written, conjuncts_conjunction filter, ?_, ?_⟩
  · rw [Filter.toPredicate_delimited, native]
    rfl
  · intro shaped
    have none : relations filter = [] := by rw [relations, relation?, shaped]; rfl
    constructor
    · rw [conjunction, partComparison, relation?, shaped]
      rfl
    · rw [written, none, relationsText]
      cases allowFiltering <;> rfl
  · intro part present
    rcases conjunct_cases present with rfl | ⟨relation, inFilter, rfl⟩
    · constructor
      · exact fun differs => absurd rfl differs
      · rintro ⟨field, value, same, -⟩
        cases same
    · rw [spelledOut_comparison_ne_iff declarations (shared relation inFilter)]
      constructor
      · rintro ⟨isIn, listed⟩
        exact ⟨relation.field, relation.value, by rw [← isIn]; rfl, listed⟩
      · rintro ⟨field, value, same, listed⟩
        obtain ⟨fields, ops, -⟩ := Predicate.compare.inj same
        exact ⟨ops, fields ▸ listed⟩

end Shared

/-- An empty node is no constraint, a list of names is compared with a list, and the tags, which are
declared to be a list, are compared with it or searched for four patterns. -/
theorem predicates_of_condition_tags :
    let declarations : Declarations := FieldMap.ofList [("name", "String"), ("tags", "[String]")]
    let filter : Filter := .combine .and [.empty, .list "name" .isIn "ann,o'neil",
      .leaf "tags" .isIn (.string "red"), .leaf "age" .gte (.int 3)]
    let names : Predicate := .compare "name" .isIn (.array [.string "ann", .string "o'neil"])
    let age : Predicate := .compare "age" .gte (.int 3)
    condition declarations true filter =
        .ok "name IN ('ann', 'o''neil') and tags IN 'red' and age >= 3 ALLOW FILTERING" ∧
      (∀ relation ∈ relations filter, relation.op ∈ sharedOperators) ∧
      filter.toPredicate declarations .native =
        .ok (.and [.unconstrained, names, .compare "tags" .isIn (.string "red"), age]) ∧
      filter.toPredicate declarations .delimited =
        .ok (.and [.unconstrained, names,
          (Containment.Patterns.ofElement "\"red\"").membership "tags", age]) := by
  intro declarations filter names age
  have has : HasCondition filter := by
    refine Or.inr ⟨_, rfl, List.forall_mem_cons.mpr ⟨isPart_empty, List.forall_mem_cons.mpr ⟨?_,
      List.forall_mem_cons.mpr ⟨?_, List.forall_mem_singleton.mpr ?_⟩⟩⟩⟩
    · exact ⟨nofun, Or.inr ⟨_, _, _, rfl, by decide⟩⟩
    · exact isPart_leaf _ _ (by decide)
    · exact isPart_leaf _ _ (by decide)
  have found : relations filter = [⟨"name", .isIn, .array [.string "ann", .string "o'neil"]⟩,
      ⟨"tags", .isIn, .string "red"⟩, ⟨"age", .gte, .int 3⟩] := rfl
  have shared : ∀ relation ∈ relations filter, relation.op ∈ sharedOperators := by
    rw [found]
    simp [sharedOperators]
  have made := condition_of_hasCondition declarations true has
  obtain ⟨native, delimited, -⟩ := predicates_of_condition declarations made shared
  have digits : Value.intText 3 = "3" := rfl
  have quotes : isQuoted declarations "name" (.array [.string "ann", .string "o'neil"]) = true ∧
      isQuoted declarations "tags" (.string "red") = true ∧
      isQuoted declarations "age" (.int 3) = false := ⟨rfl, rfl, rfl⟩
  refine ⟨?_, shared, native.trans rfl, delimited.trans rfl⟩
  rw [made, found]
  simp [relationsText, Relation.text, comparesTokens, literal, literals, quote, doubleQuotes,
    Operator.symbol, Value.rawText, quotes, digits]

end Cql

end Keyset
