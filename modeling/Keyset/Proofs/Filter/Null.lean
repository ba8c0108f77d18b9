import Keyset.Filter.ToPredicate
import Keyset.Proofs.Filter.Wire
import Keyset.Proofs.Predicate.Eval

/-! # Filters without their nulls

A node that compares with null has another shape once its value is left out: the empty one. All
other nodes keep their shape (`Keyset.Filter.shape_withoutNulls`). So a filter that compares with
null nowhere keeps its predicate (`Keyset.Filter.toPredicate_withoutNulls`), and a filter that does
and has a predicate gets another one (`Keyset.Filter.toPredicateWithin_withoutNulls_ne`).
-/

namespace Keyset

namespace Filter

mutual

/-- Whether a node that counts compares with null. The value of a node with children does not
count, nor does anything below a node without operator. -/
def comparesWithNull : Filter → Bool
  | ⟨_, value, _, some _, none⟩ => value.any Value.isNull
  | ⟨_, _, _, some _, some children⟩ => anyComparesWithNull children
  | ⟨_, _, _, none, _⟩ => false

def anyComparesWithNull : List Filter → Bool
  | [] => false
  | node :: rest => comparesWithNull node || anyComparesWithNull rest

end

theorem anyComparesWithNull_eq_any (nodes : List Filter) :
    anyComparesWithNull nodes = nodes.any comparesWithNull := by
  induction nodes with
  | nil => rfl
  | cons node rest ih => rw [anyComparesWithNull, List.any_cons, ih]

theorem withoutNullsList_eq_map (nodes : List Filter) :
    withoutNullsList nodes = nodes.map withoutNulls := by
  induction nodes with
  | nil => rfl
  | cons node rest ih => rw [withoutNullsList, List.map_cons, ih]

namespace Shape

/-- The shape of a node after its null values are left out. -/
def withoutNulls : Shape → Shape
  | .empty => .empty
  | .global op value => if value.isNull then .empty else .global op value
  | .leaf field op value => if value.isNull then .empty else .leaf field op value
  | .combine op children => .combine op (children.map Filter.withoutNulls)
  | .grouped field op children => .grouped field op (children.map Filter.withoutNulls)

/-- Whether a node of that shape compares with null. -/
def comparesWithNull : Shape → Bool
  | .empty => false
  | .global _ value => value.isNull
  | .leaf _ _ value => value.isNull
  | .combine _ children => children.any Filter.comparesWithNull
  | .grouped _ _ children => children.any Filter.comparesWithNull

end Shape

theorem comparesWithNull_eq_shape (node : Filter) :
    node.comparesWithNull = node.shape.comparesWithNull := by
  obtain ⟨field, value, valueType, operator, children⟩ := node
  cases operator with
  | none => rfl
  | some op =>
      cases children with
      | none => cases field <;> cases value <;> rfl
      | some children =>
          rw [comparesWithNull, anyComparesWithNull_eq_any]
          cases field <;> cases value <;> rfl

theorem shape_withoutNulls (node : Filter) :
    node.withoutNulls.shape = node.shape.withoutNulls := by
  obtain ⟨field, value, valueType, operator, children⟩ := node
  cases operator with
  | none => rfl
  | some op =>
      cases children with
      | none =>
          cases value with
          | none => cases field <;> rfl
          | some value => cases field <;> cases value <;> rfl
      | some children =>
          rw [withoutNulls, withoutNullsList_eq_map]
          cases field <;> rcases value with _ | ⟨⟨⟩⟩ <;> rfl

theorem operator_withoutNulls (node : Filter) : node.withoutNulls.operator = node.operator := by
  obtain ⟨field, value, valueType, operator, children⟩ := node
  rfl

theorem parsedValue_withoutNulls (node : Filter) :
    node.withoutNulls.parsedValue = node.parsedValue := by
  obtain ⟨field, value, valueType, operator, children⟩ := node
  cases value with
  | none => rfl
  | some value => cases value <;> rcases valueType with _ | ⟨⟨⟩⟩ <;> rfl

section Children

variable {ε α : Type} {compile : Filter → Except ε α}

/-- One child that is compiled to something else without its nulls is enough. -/
theorem mapM_withoutNulls_ne {children : List Filter} {parts : List α} {child : Filter}
    (done : children.mapM compile = .ok parts) (present : child ∈ children)
    (lost : ∀ part, compile child = .ok part → compile child.withoutNulls ≠ .ok part) :
    (children.map withoutNulls).mapM compile ≠ .ok parts := by
  intro same
  have before := forall₂_of_mapM done
  have after := List.forall₂_map_left_iff.mp (forall₂_of_mapM same)
  obtain ⟨place, inChildren, rfl⟩ := List.getElem_of_mem present
  have inParts : place < parts.length := before.length_eq ▸ inChildren
  exact lost _ (before.get inChildren inParts) (after.get inChildren inParts)

end Children

section Predicates

variable {declarations : Declarations} {strategy : ArrayStrategy}

theorem toPredicateWithin_withoutNulls (levels : Nat) {node : Filter}
    (noNull : ¬node.comparesWithNull) :
    toPredicateWithin declarations strategy levels node.withoutNulls =
      toPredicateWithin declarations strategy levels node := by
  induction levels generalizing node with
  | zero => rfl
  | succ levels ih =>
      rw [comparesWithNull_eq_shape] at noNull
      rw [toPredicateWithin, toPredicateWithin, shape_withoutNulls, parsedValue_withoutNulls]
      cases shaped : node.shape with
      | empty => rfl
      | global op value =>
          rw [shaped, Shape.comparesWithNull] at noNull
          rw [Shape.withoutNulls, if_neg noNull]
      | leaf field op value =>
          rw [shaped, Shape.comparesWithNull] at noNull
          rw [Shape.withoutNulls, if_neg noNull]
      | combine op children =>
          rw [shaped] at noNull
          have parts := mapM_map_eq fun child present =>
            ih fun compares => noNull (List.any_eq_true.mpr ⟨child, present, compares⟩)
          simp only [Shape.withoutNulls, parts]
      | grouped field op children =>
          rw [shaped] at noNull
          have parts := mapM_map_eq fun child present =>
            ih fun compares => noNull (List.any_eq_true.mpr ⟨child, present, compares⟩)
          simp only [Shape.withoutNulls, parts]

theorem toPredicate_withoutNulls {filter : Filter} (noNull : ¬filter.comparesWithNull) :
    filter.withoutNulls.toPredicate declarations strategy =
      filter.toPredicate declarations strategy :=
  toPredicateWithin_withoutNulls _ noNull

theorem containment?_ne_unconstrained (field : String) (op : Operator) (value : Value) :
    containment? declarations strategy field op value ≠ some .unconstrained := by
  intro same
  unfold containment? at same
  split at same
  · split at same
    · cases op <;> cases same
    · cases same
  · cases same

/-- A leaf that compiles is a constraint. -/
theorem leafPredicate_ne_unconstrained (field : String) (op : Operator) (value : Value) :
    leafPredicate declarations strategy field op value ≠ .ok .unconstrained := by
  intro same
  unfold leafPredicate at same
  split at same
  next patterns found =>
    obtain rfl := Except.ok.inj same
    exact containment?_ne_unconstrained field op value found
  next => cases op <;> cases same

/-- Parts of one number that an operator joins to the same predicate are the same. -/
theorem eq_of_combined {op : Operator} {parts others : List Predicate} {joined : Predicate}
    (number : parts.length = others.length) (first : combined op parts = .ok joined)
    (second : combined op others = .ok joined) : parts = others := by
  have same := first.trans second.symm
  cases op with
  | and => exact Predicate.and.inj (Except.ok.inj same)
  | or => exact Predicate.or.inj (Except.ok.inj same)
  | not =>
      match parts, others, number with
      | [], [], _ => rfl
      | [part], [other], _ =>
          exact congrArg (fun one => [one]) (Predicate.not.inj (Except.ok.inj same))
      | part :: next :: rest, other :: after :: others, _ =>
          exact Predicate.and.inj (Predicate.not.inj (Except.ok.inj same))
  | _ => cases first

/-- Where a comparison with null compiles, its predicate is lost. -/
theorem toPredicateWithin_withoutNulls_ne (levels : Nat) {node : Filter}
    (compares : node.comparesWithNull) {predicate : Predicate}
    (done : toPredicateWithin declarations strategy levels node = .ok predicate) :
    toPredicateWithin declarations strategy levels node.withoutNulls ≠ .ok predicate := by
  induction levels generalizing node predicate with
  | zero => cases done
  | succ levels ih =>
      intro same
      rw [comparesWithNull_eq_shape] at compares
      rw [toPredicateWithin] at done
      rw [toPredicateWithin, shape_withoutNulls] at same
      cases shaped : node.shape with
      | empty =>
          rw [shaped] at compares
          cases compares
      | global op value =>
          rw [shaped, Shape.comparesWithNull] at compares
          rw [shaped, Shape.withoutNulls, if_pos compares] at same
          obtain rfl := Except.ok.inj same
          rw [shaped] at done
          cases op <;> cases done
      | leaf field op value =>
          rw [shaped, Shape.comparesWithNull] at compares
          rw [shaped, Shape.withoutNulls, if_pos compares] at same
          obtain rfl := Except.ok.inj same
          rw [shaped] at done
          exact leafPredicate_ne_unconstrained field op _ done
      | combine op children =>
          rw [shaped] at compares done
          rw [shaped, Shape.withoutNulls] at same
          obtain ⟨child, present, below⟩ := List.any_eq_true.mp compares
          obtain ⟨parts, compiled, joined⟩ := of_bind done
          obtain ⟨others, again, joinedAgain⟩ := of_bind same
          -- Two combinations are the same only if all their parts are.
          have number : parts.length = others.length := by
            rw [← (forall₂_of_mapM compiled).length_eq, ← (forall₂_of_mapM again).length_eq,
              List.length_map]
          obtain rfl := eq_of_combined number joined joinedAgain
          exact mapM_withoutNulls_ne compiled present (fun _ => ih below) again
      | grouped field op children =>
          rw [shaped] at compares done
          rw [shaped, Shape.withoutNulls] at same
          obtain ⟨child, present, below⟩ := List.any_eq_true.mp compares
          obtain ⟨_, _, done⟩ := of_bind done
          obtain ⟨_, _, same⟩ := of_bind same
          obtain ⟨parts, compiled, joined⟩ := of_bind done
          obtain ⟨others, again, joinedAgain⟩ := of_bind same
          obtain rfl : parts = others :=
            (Predicate.within.inj (Except.ok.inj (joined.trans joinedAgain.symm))).2.2
          exact mapM_withoutNulls_ne compiled present (fun _ => ih below) again

end Predicates

end Filter

end Keyset
