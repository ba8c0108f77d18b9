import Keyset.Cql
import Keyset.Proofs.Filter.Null

/-! # Which filters have a CQL condition

A condition is a list of relations. A filter has one if it is a part, that is a leaf of a known
operator or an empty node, or a conjunction of parts; the condition is then the text of its
relations. A conjunction that has none fails like its first part that is none
(`Keyset.Cql.condition_outcome`).
-/

namespace Keyset.Cql

/-- The operators of relations. -/
def relationOperators : List Operator :=
  [.eq, .lt, .gt, .lte, .gte, .isIn, .contains, .containsKey, .tokenLt, .tokenGt]

/-- Whether an operator compares the partition tokens of the field and of the value. -/
def comparesTokens (op : Operator) : Bool :=
  op = .tokenLt || op = .tokenGt

/-- A relation of a field to a value. -/
structure Relation where
  field : String
  op : Operator
  value : Value

namespace Relation

/-- The text of a relation. -/
def text (declarations : Declarations) (relation : Relation) : String :=
  if comparesTokens relation.op then tokenRelation relation.field relation.op relation.value
  else
    relation.field ++ " " ++ relation.op.symbol ++ " " ++
      literal (isQuoted declarations relation.field relation.value) relation.value

theorem text_isEmpty (declarations : Declarations) (relation : Relation) :
    (relation.text declarations).isEmpty = false := by
  rw [text]
  split <;> simp [tokenRelation]

end Relation

/-- The relation of a node, if it is a leaf. -/
def relation? (node : Filter) : Option Relation :=
  match node.shape with
  | .leaf field op _ => some ⟨field, op, node.parsedValue⟩
  | _ => none

/-- The relations of a filter, in the order of its leaves. -/
def relations (filter : Filter) : List Relation :=
  match filter.shape with
  | .combine _ children => children.filterMap relation?
  | _ => (relation? filter).toList

/-- The text of relations, with the allowance of a full scan if there is any relation. -/
def relationsText (declarations : Declarations) (allowFiltering : Bool)
    (relations : List Relation) : String :=
  " and ".intercalate (relations.map (Relation.text declarations)) ++
    if allowFiltering && !relations.isEmpty then " ALLOW FILTERING" else ""

/-- A node that a conjunction may consist of: empty, or a leaf of a known operator. A node that
asks for a disjunction is none, even if it is empty. -/
def IsPart (node : Filter) : Prop :=
  node.operator ≠ some .or ∧
    (node.shape = .empty ∨
      ∃ field op value, node.shape = .leaf field op value ∧ op ∈ relationOperators)

theorem isPart_empty : IsPart .empty :=
  ⟨nofun, Or.inl rfl⟩

theorem isPart_leaf (field : String) {op : Operator} (value : Value)
    (known : op ∈ relationOperators) : IsPart (.leaf field op value) := by
  refine ⟨fun isOr => ?_, Or.inr ⟨field, op, _, rfl, known⟩⟩
  obtain rfl := Option.some.inj isOr
  exact absurd known (by decide)

theorem isPart_list (field : String) {op : Operator} (items : String)
    (known : op ∈ relationOperators) : IsPart (.list field op items) :=
  ⟨(isPart_leaf field (.string items) known).1, Or.inr ⟨field, op, _, rfl, known⟩⟩

/-- A filter that has a condition: a part, or a conjunction of parts. -/
def HasCondition (filter : Filter) : Prop :=
  IsPart filter ∨
    ∃ children, filter.shape = .combine .and children ∧ ∀ child ∈ children, IsPart child

/-- Why a node is no part of a conjunction. -/
def refusal? (node : Filter) : Option CompileError :=
  if node.operator = some .or then some (.unsupported .cql .or)
  else
    match node.shape with
    | .empty => none
    | .global op _ => some (.withoutField op)
    | .leaf _ op _ =>
      if op ∈ relationOperators then none
      else some (if op = .and then .missingChildren .and else .unsupported .cql op)
    | .combine op _ => some (if op = .and then .nestedConjunction else .unsupported .cql op)
    | .grouped field op _ => some (.grouped op field)

theorem refusal?_eq_none_iff {node : Filter} : refusal? node = none ↔ IsPart node := by
  rw [refusal?, IsPart]
  split
  next isOr => simp [isOr]
  next notOr =>
    cases node.shape with
    | leaf field op value => simp [notOr]
    | _ => simp [notOr]

section Texts

variable (declarations : Declarations) {conjunction : List Filter → Except CompileError String}
  {node : Filter} {children : List Filter} {cause : CompileError}

theorem relation_of_mem {op : Operator} (known : op ∈ relationOperators) (field : String)
    (value : Value) :
    relation declarations field op value = .ok (Relation.text declarations ⟨field, op, value⟩) := by
  simp only [relationOperators, List.mem_cons, List.not_mem_nil, or_false] at known
  rcases known with rfl | rfl | rfl | rfl | rfl | rfl | rfl | rfl | rfl | rfl <;> rfl

theorem relation_of_not_mem {op : Operator} (unknown : op ∉ relationOperators) (field : String)
    (value : Value) :
    relation declarations field op value =
      .error (if op = .and then .missingChildren .and else .unsupported .cql op) := by
  cases op <;> first | rfl | exact absurd (by decide) unknown

/-- The text of a part: that of its relation, if it has one. -/
def partWording (node : Filter) : String :=
  (relation? node).elim "" (Relation.text declarations)

theorem nodeText_of_isPart (part : IsPart node) :
    nodeText declarations conjunction node = .ok (partWording declarations node) := by
  obtain ⟨notOr, shaped | ⟨field, op, value, shaped, known⟩⟩ := part
  · rw [nodeText, if_neg notOr, partWording, relation?, shaped]
    rfl
  · rw [nodeText, if_neg notOr, partWording, relation?, shaped]
    exact relation_of_mem declarations known field node.parsedValue

/-- A node that is refused as a part has no text, provided that a conjunction has none either. -/
theorem nodeText_of_refusal (refused : refusal? node = some cause)
    (nested : ∀ children, node.shape = .combine .and children →
      conjunction children = .error .nestedConjunction) :
    nodeText declarations conjunction node = .error cause := by
  rw [refusal?] at refused
  rw [nodeText]
  split at refused
  next isOr =>
    obtain rfl := Option.some.inj refused
    rw [if_pos isOr]
  next notOr =>
    rw [if_neg notOr]
    cases shaped : node.shape with
    | empty =>
        rw [shaped] at refused
        cases refused
    | global op value =>
        rw [shaped] at refused
        obtain rfl := Option.some.inj refused
        rfl
    | leaf field op value =>
        rw [shaped] at refused
        dsimp only at refused
        split at refused
        next => cases refused
        next unknown =>
          obtain rfl := Option.some.inj refused
          exact relation_of_not_mem declarations unknown field node.parsedValue
    | combine op children =>
        rw [shaped] at refused
        obtain rfl := Option.some.inj refused
        cases op with
        | and => exact nested children shaped
        | _ => rfl
    | grouped field op children =>
        rw [shaped] at refused
        obtain rfl := Option.some.inj refused
        rfl

theorem partText_of_refusal (refused : refusal? node = some cause) :
    partText declarations node = .error cause :=
  nodeText_of_refusal declarations refused fun _ _ => rfl

theorem mapM_partText (parts : ∀ child ∈ children, IsPart child) :
    children.mapM (partText declarations) = .ok (children.map (partWording declarations)) :=
  mapM_eq_ok_map fun child inChildren => nodeText_of_isPart declarations (parts child inChildren)

/-- The parts before the first one that is refused have texts, so its cause is what is left. -/
theorem mapM_partText_of_refusal (refused : children.findSome? refusal? = some cause) :
    children.mapM (partText declarations) = .error cause := by
  induction children with
  | nil => cases refused
  | cons child rest ih =>
      rw [List.mapM_cons]
      cases here : refusal? child with
      | some first =>
          rw [List.findSome?_cons_of_isSome (by rw [here]; rfl), here] at refused
          obtain rfl := Option.some.inj refused
          rw [partText_of_refusal declarations here]
          rfl
      | none =>
          rw [List.findSome?_cons_of_isNone (by rw [here]; rfl)] at refused
          have text : partText declarations child = .ok (partWording declarations child) :=
            nodeText_of_isPart declarations (refusal?_eq_none_iff.mp here)
          rw [text, ih refused]
          rfl

theorem filter_partWording (children : List Filter) :
    ((children.map (partWording declarations)).filter fun part => !part.isEmpty) =
      (children.filterMap relation?).map (Relation.text declarations) := by
  induction children with
  | nil => rfl
  | cons child rest ih =>
      rw [List.map_cons, List.filter_cons, ih, partWording]
      cases found : relation? child with
      | none =>
          rw [List.filterMap_cons_none found]
          rfl
      | some relation =>
          rw [List.filterMap_cons_some found, List.map_cons, Option.elim_some,
            relation.text_isEmpty declarations]
          rfl

theorem intercalate_text_isEmpty (relations : List Relation) :
    (" and ".intercalate (relations.map (Relation.text declarations))).isEmpty =
      relations.isEmpty := by
  cases relations with
  | nil => rfl
  | cons relation rest =>
      have present := relation.text_isEmpty declarations
      cases rest with
      | nil =>
          rw [List.map_singleton, String.intercalate_singleton, present]
          rfl
      | cons next rest =>
          rw [List.map_cons, List.map_cons, String.intercalate_cons_cons]
          simp

theorem operator_of_combine {op : Operator} (shaped : node.shape = .combine op children) :
    node.operator = some op := by
  obtain ⟨field, value, valueType, operator, search⟩ := node
  cases operator with
  | none => cases shaped
  | some other =>
      cases search with
      | none => cases field <;> cases value <;> cases shaped
      | some nodes =>
          cases field with
          | none =>
              cases value <;> exact congrArg some (Filter.Shape.combine.inj shaped).1
          | some name => cases value <;> cases shaped

theorem nodeText_of_combine (shaped : node.shape = .combine .and children) :
    nodeText declarations conjunction node = conjunction children := by
  have notOr : node.operator ≠ some .or := by
    rw [operator_of_combine shaped]
    decide
  rw [nodeText, if_neg notOr, shaped]

theorem nodeText_of_hasCondition (has : HasCondition node) :
    nodeText declarations (conjunctionText declarations) node =
      .ok (" and ".intercalate ((relations node).map (Relation.text declarations))) := by
  rcases has with part | ⟨children, shaped, parts⟩
  · have single : relations node = (relation? node).toList := by
      rcases part.2 with shaped | ⟨_, _, _, shaped, _⟩ <;> rw [relations, shaped]
    rw [nodeText_of_isPart declarations part, single, partWording]
    cases relation? node with
    | none => rfl
    | some relation =>
        rw [Option.toList_some, List.map_singleton, String.intercalate_singleton]
        rfl
  · have all : relations node = children.filterMap relation? := by rw [relations, shaped]
    rw [nodeText_of_combine declarations shaped, all, ← filter_partWording, conjunctionText,
      mapM_partText declarations parts]
    rfl

theorem condition_of_hasCondition (allowFiltering : Bool) (has : HasCondition node) :
    condition declarations allowFiltering node =
      .ok (relationsText declarations allowFiltering (relations node)) := by
  rw [condition, nodeText_of_hasCondition declarations has, relationsText]
  change Except.ok _ = Except.ok _
  rw [intercalate_text_isEmpty]
  split
  next => rfl
  next => rw [String.append_empty]

theorem condition_of_combine_refusal (allowFiltering : Bool)
    (shaped : node.shape = .combine .and children)
    (refused : children.findSome? refusal? = some cause) :
    condition declarations allowFiltering node = .error cause := by
  rw [condition, nodeText_of_combine declarations shaped, conjunctionText,
    mapM_partText_of_refusal declarations refused]
  rfl

theorem hasCondition_of_condition {allowFiltering : Bool} {text : String}
    (made : condition declarations allowFiltering node = .ok text) : HasCondition node := by
  by_cases joined : ∃ children, node.shape = .combine .and children
  · obtain ⟨children, shaped⟩ := joined
    refine Or.inr ⟨children, shaped, ?_⟩
    cases refused : children.findSome? refusal? with
    | some cause =>
        rw [condition_of_combine_refusal declarations allowFiltering shaped refused] at made
        cases made
    | none =>
        intro child present
        exact refusal?_eq_none_iff.mp (List.findSome?_eq_none_iff.mp refused child present)
  · refine Or.inl (refusal?_eq_none_iff.mp ?_)
    cases refused : refusal? node with
    | none => rfl
    | some cause =>
        have failed : nodeText declarations (conjunctionText declarations) node = .error cause :=
          nodeText_of_refusal declarations refused
            fun children shaped => absurd ⟨children, shaped⟩ joined
        rw [condition, failed] at made
        cases made

/-- **Which filters have a condition, and which condition.** A filter has a condition iff it is a
leaf of a known operator, an empty node that asks for no disjunction, or a conjunction of such
nodes. The condition is the text of its relations in their order. A conjunction with other parts
fails with the cause of the first of them. -/
theorem condition_outcome (allowFiltering : Bool) (filter : Filter) :
    ((∃ text, condition declarations allowFiltering filter = .ok text) ↔ HasCondition filter) ∧
      (∀ text, condition declarations allowFiltering filter = .ok text →
        text = relationsText declarations allowFiltering (relations filter)) ∧
      ∀ children cause, filter.shape = .combine .and children →
        children.findSome? refusal? = some cause →
          condition declarations allowFiltering filter = .error cause := by
  have written (has : HasCondition filter) :=
    condition_of_hasCondition declarations allowFiltering has
  refine ⟨⟨?_, fun has => ⟨_, written has⟩⟩, ?_, ?_⟩
  · rintro ⟨text, made⟩
    exact hasCondition_of_condition declarations made
  · intro text made
    have has := hasCondition_of_condition declarations made
    exact Except.ok.inj (made.symm.trans (written has))
  · intro children cause shaped refused
    exact condition_of_combine_refusal declarations allowFiltering shaped refused

end Texts

/-- Two relations with an empty node before them have a condition. A conjunction with a nested one
and an unknown operator fails at the nested one, which comes first. -/
theorem condition_outcome_scan :
    let declarations : Declarations := FieldMap.ofList [("name", "String")]
    let scan : Filter := .combine .and
      [.empty, .list "name" .isIn "ann,o'neil", .leaf "id" .tokenGt (.int 42)]
    let nested : Filter := .combine .and
      [.leaf "age" .eq (.int 1), .combine .and [], .leaf "name" .like (.string "B%")]
    condition declarations true scan =
        .ok "name IN ('ann', 'o''neil') and token(id) > token('42') ALLOW FILTERING" ∧
      condition declarations true nested = .error .nestedConjunction := by
  intro declarations scan nested
  have has : HasCondition scan := by
    refine Or.inr ⟨_, rfl, List.forall_mem_cons.mpr ⟨isPart_empty, List.forall_mem_cons.mpr ⟨?_,
      List.forall_mem_singleton.mpr ?_⟩⟩⟩
    · exact ⟨nofun, Or.inr ⟨_, _, _, rfl, by decide⟩⟩
    · exact isPart_leaf _ _ (by decide)
  have found : relations scan =
      [⟨"name", .isIn, .array [.string "ann", .string "o'neil"]⟩, ⟨"id", .tokenGt, .int 42⟩] :=
    rfl
  have names : isQuoted declarations "name" (.array [.string "ann", .string "o'neil"]) = true :=
    rfl
  have digits : Value.intText 42 = "42" := rfl
  obtain ⟨accepted, written, -⟩ := condition_outcome declarations true scan
  obtain ⟨-, -, refused⟩ := condition_outcome declarations true nested
  obtain ⟨text, made⟩ := accepted.mpr has
  refine ⟨?_, refused _ _ rfl rfl⟩
  rw [made, written text made, found]
  simp [relationsText, Relation.text, comparesTokens, tokenRelation, literal, literals, quote,
    doubleQuotes, Operator.symbol, Value.rawText, names, digits]

end Keyset.Cql
