import Keyset.Proofs.Cql.Relations

/-! # Filters without the texts of their values

Two filters differ only in the texts of some leaves if they are the same once these texts are made
empty (`Keyset.Cql.withoutTexts`). A text that is a list keeps its commas, so that it has as many
items as before (`Keyset.Cql.parsedValue_withoutTextsAs`). A filter without texts has a condition
iff it has one with them (`Keyset.Cql.hasCondition_withoutTexts_iff`), and its relations are the
same but for their texts (`Keyset.Cql.relations_withoutTexts`).
-/

namespace Keyset

namespace Value

mutual

/-- The value with every text in it made empty. -/
def withoutTexts : Value → Value
  | string _ => string ""
  | array items => array (itemsWithoutTexts items)
  | value => value

def itemsWithoutTexts : List Value → List Value
  | [] => []
  | item :: rest => withoutTexts item :: itemsWithoutTexts rest

end

theorem itemsWithoutTexts_eq_map (items : List Value) :
    itemsWithoutTexts items = items.map withoutTexts := by
  induction items with
  | nil => rfl
  | cons item rest ih => rw [itemsWithoutTexts, List.map_cons, ih]

/-- The value of a node with every text in it made empty. A text that is a list keeps its commas. -/
def withoutTextsAs (valueType : Option ValueType) (value : Value) : Value :=
  match valueType, value with
  | some .array, string s => string (String.ofList (s.toList.filter (· == ',')))
  | _, value => value.withoutTexts

end Value

theorem Text.cut_filter (mark : Char) (text : List Char) :
    cut mark (text.filter (· == mark)) = (cut mark text).map fun _ => [] := by
  induction text with
  | nil => rfl
  | cons c rest ih =>
      by_cases isMark : c = mark
      · subst isMark
        rw [List.filter_cons_of_pos (by simp), cut, cut, if_pos rfl, if_pos rfl, ih,
          List.map_cons]
      · rw [List.filter_cons_of_neg (by simpa using isMark), ih, cut, if_neg isMark]
        cases pieces : cut mark rest with
        | nil => exact absurd pieces (cut_ne_nil mark rest)
        | cons first others => rfl

namespace Cql

/-! ## Leaving out texts -/

/-- The relation with every text in its value made empty, if it is selected. -/
def Relation.withoutTexts (selects : Relation → Bool) (relation : Relation) : Relation :=
  if selects relation then { relation with value := relation.value.withoutTexts } else relation

/-- The node with every text in its value made empty, if it is a leaf whose relation is selected. -/
def leafWithoutTexts (selects : Relation → Bool) (node : Filter) : Filter :=
  match relation? node with
  | some relation =>
    if selects relation then
      { node with value := node.value.map (Value.withoutTextsAs node.valueType) }
    else node
  | none => node

mutual

/-- The filter with every text in the values of the selected leaves made empty. -/
def withoutTexts (selects : Relation → Bool) : Filter → Filter
  | ⟨field, value, valueType, operator, some children⟩ =>
    ⟨field, value, valueType, operator, some (listWithoutTexts selects children)⟩
  | ⟨field, value, valueType, operator, none⟩ =>
    leafWithoutTexts selects ⟨field, value, valueType, operator, none⟩

def listWithoutTexts (selects : Relation → Bool) : List Filter → List Filter
  | [] => []
  | node :: rest => withoutTexts selects node :: listWithoutTexts selects rest

end

variable (selects : Relation → Bool)

theorem listWithoutTexts_eq_map (nodes : List Filter) :
    listWithoutTexts selects nodes = nodes.map (withoutTexts selects) := by
  induction nodes with
  | nil => rfl
  | cons node rest ih => rw [listWithoutTexts, List.map_cons, ih]

theorem parsedValue_withoutTextsAs (node : Filter) :
    Filter.parsedValue
        { node with value := node.value.map (Value.withoutTextsAs node.valueType) } =
      node.parsedValue.withoutTexts := by
  obtain ⟨field, value, valueType, operator, children⟩ := node
  rcases value with _ | value
  · rcases valueType with _ | ⟨⟨⟩⟩ <;> rfl
  · rcases valueType with _ | ⟨⟨⟩⟩
    · rfl
    · cases value with
      | string s =>
          change Value.array _ = Value.array _
          rw [Value.itemsWithoutTexts_eq_map, Text.cutString, Text.cutString,
            String.toList_ofList, Text.cut_filter]
          simp only [List.map_map]
          rfl
      | _ => rfl
    · rfl

/-! ## What keeps its kind -/

/-- A node is refused, or not, whatever its value is. -/
theorem refusal?_map_value (node : Filter) (change : Value → Value) :
    refusal? { node with value := node.value.map change } = refusal? node := by
  obtain ⟨field, value, valueType, operator, children⟩ := node
  cases operator with
  | none => rfl
  | some op => cases field <;> cases value <;> cases children <;> rfl

theorem relation?_map_value (node : Filter) :
    relation? { node with value := node.value.map (Value.withoutTextsAs node.valueType) } =
      (relation? node).map fun relation =>
        { relation with value := relation.value.withoutTexts } := by
  have read := parsedValue_withoutTextsAs node
  obtain ⟨field, value, valueType, operator, children⟩ := node
  cases operator with
  | none => rfl
  | some op =>
      cases field <;> cases value <;> cases children <;> first | rfl | skip
      exact congrArg (fun value => some (Relation.mk _ op value)) read

theorem shape_ne_combine {node : Filter} (childless : node.children = none) (op : Operator)
    (children : List Filter) : node.shape ≠ .combine op children := by
  obtain ⟨field, value, valueType, operator, search⟩ := node
  obtain rfl := childless
  cases operator with
  | none => nofun
  | some op => cases field <;> cases value <;> nofun

theorem relations_of_childless {node : Filter} (childless : node.children = none) :
    relations node = (relation? node).toList := by
  rw [relations]
  split
  next op children shaped => exact absurd shaped (shape_ne_combine childless op children)
  next => rfl

theorem children_leafWithoutTexts (node : Filter) :
    (leafWithoutTexts selects node).children = node.children := by
  rw [leafWithoutTexts]
  split
  · split <;> rfl
  · rfl

theorem relation?_leafWithoutTexts (node : Filter) :
    relation? (leafWithoutTexts selects node) =
      (relation? node).map (Relation.withoutTexts selects) := by
  rw [leafWithoutTexts]
  cases found : relation? node with
  | none => exact found
  | some relation =>
      dsimp only
      rw [Option.map_some, Relation.withoutTexts]
      split
      next => rw [relation?_map_value, found, Option.map_some]
      next => exact found

theorem refusal?_leafWithoutTexts (node : Filter) :
    refusal? (leafWithoutTexts selects node) = refusal? node := by
  rw [leafWithoutTexts]
  split
  · split
    · exact refusal?_map_value node _
    · rfl
  · rfl

theorem refusal?_withoutTexts (node : Filter) :
    refusal? (withoutTexts selects node) = refusal? node := by
  obtain ⟨field, value, valueType, operator, _ | children⟩ := node
  · exact refusal?_leafWithoutTexts selects _
  · cases operator with
    | none => rfl
    | some op => cases field <;> cases value <;> rfl

theorem relation?_withoutTexts (node : Filter) :
    relation? (withoutTexts selects node) =
      (relation? node).map (Relation.withoutTexts selects) := by
  obtain ⟨field, value, valueType, operator, _ | children⟩ := node
  · exact relation?_leafWithoutTexts selects _
  · cases operator with
    | none => rfl
    | some op => cases field <;> cases value <;> rfl

theorem relations_withoutTexts (filter : Filter) :
    relations (withoutTexts selects filter) =
      (relations filter).map (Relation.withoutTexts selects) := by
  have single (node : Filter) : (relation? (withoutTexts selects node)).toList =
      (relation? node).toList.map (Relation.withoutTexts selects) := by
    rw [relation?_withoutTexts]
    cases relation? node <;> rfl
  have several (children : List Filter) : (listWithoutTexts selects children).filterMap relation? =
      (children.filterMap relation?).map (Relation.withoutTexts selects) := by
    rw [listWithoutTexts_eq_map, List.filterMap_map, List.map_filterMap]
    exact List.filterMap_congr fun node _ => relation?_withoutTexts selects node
  obtain ⟨field, value, valueType, operator, _ | children⟩ := filter
  · have kept : relations ⟨field, value, valueType, operator, none⟩ =
        (relation? ⟨field, value, valueType, operator, none⟩).toList := relations_of_childless rfl
    rw [kept, ← single]
    exact relations_of_childless (children_leafWithoutTexts selects _)
  · cases operator with
    | none => rfl
    | some op => cases field <;> cases value <;> first | rfl | exact several children

theorem combine_withoutTexts_iff {filter : Filter} {op : Operator} {parts : List Filter} :
    (withoutTexts selects filter).shape = .combine op parts ↔
      ∃ children, filter.shape = .combine op children ∧
        children.map (withoutTexts selects) = parts := by
  obtain ⟨field, value, valueType, operator, _ | children⟩ := filter
  · refine iff_of_false (shape_ne_combine (children_leafWithoutTexts selects _) op parts) ?_
    rintro ⟨children, shaped, -⟩
    exact shape_ne_combine rfl op children shaped
  · rw [withoutTexts, listWithoutTexts_eq_map]
    cases operator with
    | none => simp [Filter.shape]
    | some other => cases field <;> cases value <;> simp [Filter.shape, and_assoc]

theorem hasCondition_withoutTexts_iff {filter : Filter} :
    HasCondition (withoutTexts selects filter) ↔ HasCondition filter := by
  have part (node : Filter) : IsPart (withoutTexts selects node) ↔ IsPart node := by
    rw [← refusal?_eq_none_iff, ← refusal?_eq_none_iff, refusal?_withoutTexts]
  rw [HasCondition, HasCondition, part]
  refine or_congr_right ⟨?_, ?_⟩
  · rintro ⟨parts, joined, each⟩
    obtain ⟨children, shaped, rfl⟩ := (combine_withoutTexts_iff selects).mp joined
    exact ⟨children, shaped, fun child present =>
      (part child).mp (each _ (List.mem_map_of_mem present))⟩
  · rintro ⟨children, shaped, each⟩
    refine ⟨_, (combine_withoutTexts_iff selects).mpr ⟨children, shaped, rfl⟩, ?_⟩
    exact List.forall_mem_map.mpr fun child present => (part child).mpr (each child present)

end Cql

end Keyset
