import Keyset.Proofs.Filter.Null

/-! # The answer of a filter

A filter can be read on a record node by node, without a predicate: a leaf compares the field, and
the nodes below an operator are asked from left to right as far as they decide it
(`Keyset.Filter.answer`). The predicate that a filter is compiled to has this answer on every
record, or fails with the same error, unless membership in a declared list is spelled out by
patterns (`Keyset.Filter.eval_toPredicate`).
-/

namespace Keyset

namespace Filter

/-- An operator across nodes, of which it is known whether all of them are satisfied and whether
any is. Only three operators join nodes. -/
def joinedAnswer (op : Operator) (all any : Except EvalError Bool) : Except EvalError Bool :=
  match op with
  | .and => all
  | .or => any
  | .not => all.map Bool.not
  | op => .error (.unsupported op)

mutual

/-- Whether a record satisfies a filter, read node by node. -/
def answer (record : Record) : Filter → Except EvalError Bool
  | ⟨_, _, _, none, _⟩ => .ok true
  | ⟨_, none, _, some _, none⟩ => .ok true
  | ⟨none, some _, _, some op, none⟩ => .error (.withoutField op)
  | ⟨some field, some value, type, some op, none⟩ =>
    Predicate.holds (record.value field) op
      (parsedValue ⟨some field, some value, type, some op, none⟩)
  | ⟨none, _, _, some op, some children⟩ =>
    joinedAnswer op (answerAll record children) (answerAny record children)
  | ⟨some field, _, _, some op, some _⟩ => .error (.within op field)

/-- Whether a record satisfies all nodes of a list, up to the first that it does not satisfy. -/
def answerAll (record : Record) : List Filter → Except EvalError Bool
  | [] => .ok true
  | node :: rest => do if ← answer record node then answerAll record rest else .ok false

/-- Whether a record satisfies a node of a list, up to the first that it satisfies. -/
def answerAny (record : Record) : List Filter → Except EvalError Bool
  | [] => .ok false
  | node :: rest => do if ← answer record node then .ok true else answerAny record rest

end

mutual

/-- The fields of the leaves of a filter. Nodes below a node without operator do not count. -/
def leafFields : Filter → List String
  | ⟨some field, some _, _, some _, none⟩ => [field]
  | ⟨_, _, _, some _, some children⟩ => leafFieldsAll children
  | _ => []

def leafFieldsAll : List Filter → List String
  | [] => []
  | node :: rest => leafFields node ++ leafFieldsAll rest

end

theorem leafFieldsAll_eq_flatMap (nodes : List Filter) :
    leafFieldsAll nodes = nodes.flatMap leafFields := by
  induction nodes with
  | nil => rfl
  | cons node rest ih => rw [leafFieldsAll, List.flatMap_cons, ih]

namespace Shape

/-- The answer of a node of that shape, whose value is read as the given one. -/
def answer (record : Record) (value : Value) : Shape → Except EvalError Bool
  | .empty => .ok true
  | .global op _ => .error (.withoutField op)
  | .leaf field op _ => Predicate.holds (record.value field) op value
  | .combine op children => joinedAnswer op (answerAll record children) (answerAny record children)
  | .grouped field op _ => .error (.within op field)

/-- The fields of the leaves at and below a node of that shape. -/
def leafFields : Shape → List String
  | .empty => []
  | .global _ _ => []
  | .leaf field _ _ => [field]
  | .combine _ children => children.flatMap Filter.leafFields
  | .grouped _ _ children => children.flatMap Filter.leafFields

end Shape

theorem answer_eq_shape (record : Record) (node : Filter) :
    node.answer record = node.shape.answer record node.parsedValue := by
  obtain ⟨field, value, valueType, operator, children⟩ := node
  cases operator with
  | none => rfl
  | some op => cases field <;> cases value <;> cases children <;> rfl

theorem leafFields_eq_shape (node : Filter) : node.leafFields = node.shape.leafFields := by
  obtain ⟨field, value, valueType, operator, children⟩ := node
  cases operator with
  | none => cases field <;> cases value <;> cases children <;> rfl
  | some op =>
      cases children with
      | none => cases field <;> cases value <;> rfl
      | some children =>
          have below := leafFieldsAll_eq_flatMap children
          cases field <;> cases value <;> exact below

section Joined

variable {record : Record} {children : List Filter} {parts : List Predicate}

theorem evalAll_of_answers
    (same : List.Forall₂ (fun child part => Predicate.eval record part = answer record child)
      children parts) : Predicate.evalAll record parts = answerAll record children := by
  induction same with
  | nil => rfl
  | cons here _ ih => rw [Predicate.evalAll, answerAll, here, ih]

theorem evalAny_of_answers
    (same : List.Forall₂ (fun child part => Predicate.eval record part = answer record child)
      children parts) : Predicate.evalAny record parts = answerAny record children := by
  induction same with
  | nil => rfl
  | cons here _ ih => rw [Predicate.evalAny, answerAny, here, ih]

/-- Joined predicates are asked like the nodes that they stand for. A negation of a single predicate
has no conjunction in it, which makes no difference. -/
theorem eval_of_combined {op : Operator} {predicate : Predicate}
    (joined : combined op parts = .ok predicate) :
    predicate.eval record =
      joinedAnswer op (Predicate.evalAll record parts) (Predicate.evalAny record parts) := by
  cases op with
  | and =>
      obtain rfl := Except.ok.inj joined
      rfl
  | or =>
      obtain rfl := Except.ok.inj joined
      rfl
  | not =>
      match parts with
      | [part] =>
          obtain rfl := Except.ok.inj joined
          rw [Predicate.evalAll_singleton]
          rfl
      | [] =>
          obtain rfl := Except.ok.inj joined
          rfl
      | part :: next :: rest =>
          obtain rfl := Except.ok.inj joined
          rfl
  | _ => cases joined

end Joined

section Compiled

variable {declarations : Declarations} {strategy : ArrayStrategy}

theorem containment?_eq_none {field : String}
    (plain : strategy = .native ∨ ¬declarations.isList field) (op : Operator) (value : Value) :
    containment? declarations strategy field op value = none := by
  unfold containment?
  split
  next _ type declared =>
    have notList : type.isList = false := by
      rcases plain with native | notList
      · cases native
      · rwa [Declarations.isList, declared, Bool.not_eq_true] at notList
    rw [notList]
    rfl
  next => rfl

theorem eval_of_leafPredicate {field : String} {op : Operator} {value : Value}
    {predicate : Predicate} (plain : strategy = .native ∨ ¬declarations.isList field)
    (compiled : leafPredicate declarations strategy field op value = .ok predicate)
    (record : Record) :
    predicate.eval record = Predicate.holds (record.value field) op value := by
  rw [leafPredicate, containment?_eq_none plain] at compiled
  obtain ⟨_, _, rfl⟩ := of_map compiled
  rfl

theorem eval_toPredicateWithin (levels : Nat) {node : Filter} {predicate : Predicate}
    (compiled : toPredicateWithin declarations strategy levels node = .ok predicate)
    (plain : strategy = .native ∨ ∀ field ∈ node.leafFields, ¬declarations.isList field)
    (record : Record) : predicate.eval record = node.answer record := by
  -- On the levels that are left: the children are compiled with one level less.
  induction levels generalizing node predicate with
  | zero => cases compiled
  | succ levels ih =>
      rw [leafFields_eq_shape] at plain
      rw [answer_eq_shape]
      rw [toPredicateWithin] at compiled
      cases shaped : node.shape with
      | empty =>
          rw [shaped] at compiled
          obtain rfl := Except.ok.inj compiled
          rfl
      | global op value =>
          rw [shaped] at compiled
          obtain ⟨_, _, rfl⟩ := of_map compiled
          rfl
      | leaf field op value =>
          rw [shaped] at compiled plain
          have here := plain.imp_right fun all => all field (List.mem_singleton.mpr rfl)
          exact eval_of_leafPredicate here compiled record
      | combine op children =>
          rw [shaped] at compiled plain
          obtain ⟨parts, made, joined⟩ := of_bind compiled
          have below : List.Forall₂
              (fun child part => Predicate.eval record part = answer record child)
              children parts := by
            refine forall₂_of_mapM_mem made fun child inChildren part compiled => ?_
            exact ih compiled (plain.imp_right fun all field inLeaves =>
              all field (List.mem_flatMap.mpr ⟨child, inChildren, inLeaves⟩))
          rw [eval_of_combined joined, evalAll_of_answers below, evalAny_of_answers below]
          rfl
      | grouped field op children =>
          rw [shaped] at compiled
          obtain ⟨_, _, compiled⟩ := of_bind compiled
          obtain ⟨parts, _, joined⟩ := of_bind compiled
          obtain rfl := Except.ok.inj joined
          rfl

/-- **A compiled filter has the answer of the filter.** Wherever a filter has a predicate, and no
leaf asks for membership in a list that is stored as text, the predicate and the filter have the
same answer, or the same error, on every record. -/
theorem eval_toPredicate {filter : Filter} {predicate : Predicate}
    (compiled : filter.toPredicate declarations strategy = .ok predicate)
    (plain : strategy = .native ∨ ∀ field ∈ filter.leafFields, ¬declarations.isList field)
    (record : Record) : predicate.eval record = filter.answer record :=
  eval_toPredicateWithin _ compiled plain record

end Compiled

/-- A negation of several nodes, a leaf, and a value without a field that is asked last. -/
def mixed : Filter :=
  combine .or [combine .not [list "id" .isIn "1,2", empty], leaf "age" .gt (.int 10),
    global .eq (.int 3)]

/-- An age above ten decides the filter; otherwise it fails at the value without a field. -/
theorem eval_toPredicate_mixed :
    let declarations : Declarations := FieldMap.ofList [("age", "Int"), ("tags", "[String]")]
    let record (age : Int64) : Record := FieldMap.ofList [("age", .int age), ("id", .string "2")]
    ∃ predicate, mixed.toPredicate declarations .delimited = .ok predicate ∧
      (∀ field ∈ mixed.leafFields, ¬declarations.isList field) ∧
      predicate.eval (record 11) = .ok true ∧
      predicate.eval (record 7) = .error (.withoutField .eq) := by
  intro declarations record
  have plain : ∀ field ∈ mixed.leafFields, ¬declarations.isList field := by decide
  obtain ⟨predicate, compiled⟩ :
      ∃ predicate, mixed.toPredicate declarations .delimited = .ok predicate := ⟨_, rfl⟩
  have same := eval_toPredicate compiled (Or.inr plain)
  exact ⟨predicate, compiled, plain, (same (record 11)).trans rfl, (same (record 7)).trans rfl⟩

end Filter

end Keyset
