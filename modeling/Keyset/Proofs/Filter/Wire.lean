import Mathlib.Data.List.Perm.Subperm
import Keyset.Filter.Wire
import Keyset.Proofs.FieldMap
import Keyset.Proofs.Value.Wire

/-! # Filters through JSON

Reading takes null for an absent part, so a node whose value is null comes back without a value.
Nothing else is lost, whether the members of every object stand in the order of writing or in that
of their names (`Keyset.Filter.ofJson_of_isWritten`).
-/

namespace Keyset.Filter

mutual

/-- The values of all nodes are plain. -/
def Plain : Filter → Prop
  | ⟨_, value, _, _, children⟩ =>
    (∀ found ∈ value, found.Plain) ∧
      match children with
      | some children => PlainList children
      | none => True

def PlainList : List Filter → Prop
  | [] => True
  | node :: rest => Plain node ∧ PlainList rest

end

mutual

/-- The filter with every value that is null left out. -/
def withoutNulls : Filter → Filter
  | ⟨field, value, valueType, operator, children⟩ =>
    ⟨field, value.filter fun value => !value.isNull, valueType, operator,
      match children with
      | some children => some (withoutNullsList children)
      | none => none⟩

def withoutNullsList : List Filter → List Filter
  | [] => []
  | node :: rest => withoutNulls node :: withoutNullsList rest

end

/-- The members of a node with these parts, in the order of writing. -/
def members (field value valueType operator search : Option Json) : List (String × Json) :=
  part "field" field ++ part "value" value ++ part "valueType" valueType ++
    part "operator" operator ++ part "search" search

/-- The members of a node with these parts, in the order of their names. -/
def sortedMembers (field value valueType operator search : Option Json) :
    List (String × Json) :=
  part "field" field ++ part "operator" operator ++ part "search" search ++ part "value" value ++
    part "valueType" valueType

section Members

variable (field value valueType operator search : Option Json)

theorem names_part (name : String) (json : Option Json) :
    ((part name json).map Prod.fst).Sublist [name] := by
  cases json with
  | none => exact List.nil_sublist _
  | some json => exact List.Sublist.refl _

theorem names_members :
    ((members field value valueType operator search).map Prod.fst).Sublist partNames := by
  simp only [members, List.map_append]
  exact ((((names_part _ field).append (names_part _ value)).append
    (names_part _ valueType)).append (names_part _ operator)).append (names_part _ search)

theorem members_perm_sortedMembers :
    (members field value valueType operator search).Perm
      (sortedMembers field value valueType operator search) := by
  simp only [members, sortedMembers, List.append_assoc]
  apply List.Perm.append_left
  rw [← List.append_assoc (part "value" value)]
  rw [← List.append_assoc (part "operator" operator)]
  exact List.perm_append_comm

theorem sortedMembers_sorted :
    FieldsSorted (sortedMembers field value valueType operator search) := by
  have names : ((sortedMembers field value valueType operator search).map Prod.fst).Sublist
      ["field", "operator", "search", "value", "valueType"] := by
    simp only [sortedMembers, List.map_append]
    exact ((((names_part _ field).append (names_part _ operator)).append
      (names_part _ search)).append (names_part _ value)).append (names_part _ valueType)
  have increasing : ["field", "operator", "search", "value", "valueType"].Pairwise (· < ·) := by
    decide
  exact List.pairwise_map.mp (increasing.sublist names)

theorem names_sortedMembers :
    ((sortedMembers field value valueType operator search).map Prod.fst).Subperm partNames :=
  ((members_perm_sortedMembers ..).map Prod.fst).symm.subperm.trans (names_members ..).subperm

theorem canonicalMembers_members :
    Json.canonicalMembers (members field value valueType operator search) =
      members (field.map Json.canonical) (value.map Json.canonical)
        (valueType.map Json.canonical) (operator.map Json.canonical)
        (search.map Json.canonical) := by
  have atPart : ∀ (name : String) (json : Option Json) (rest : List (String × Json)),
      Json.canonicalMembers (part name json ++ rest) =
        part name (json.map Json.canonical) ++ Json.canonicalMembers rest := by
    intro name json rest
    cases json <;> rfl
  have atEnd := atPart "search" search []
  rw [List.append_nil] at atEnd
  simp only [members, List.append_assoc, atPart, atEnd, Json.canonicalMembers, List.append_nil]

/-- The members of an object in canonical form stand in the order of their names. -/
theorem ofList_members :
    (FieldMap.ofList (members field value valueType operator search)).members =
      sortedMembers field value valueType operator search := by
  have distinct : partNames.Nodup := by decide
  have sorted := sortedMembers_sorted field value valueType operator search
  rw [FieldMap.ofList_perm (members_perm_sortedMembers ..)
    (distinct.sublist (names_members ..))]
  exact congrArg FieldMap.members (FieldMap.ofList_members ⟨_, sorted⟩)

end Members

/-- A node with the part of one member. -/
def withMember (node : Filter) (member : String × Json) : Except Json.Mismatch Filter :=
  readPart Value.ofJson? member.1 node member.2

/-- Members are read one after the other if their names are distinct names of parts and none of
them has been read already. -/
theorem readMembers_of_unseen {rest : List (String × Json)} {seen : List String}
    (known : rest.map Prod.fst ⊆ partNames) (distinct : (rest.map Prod.fst).Nodup)
    (unseen : ∀ name ∈ rest.map Prod.fst, name ∉ seen) (node : Filter) :
    readMembers Value.ofJson? seen rest node = rest.foldlM withMember node := by
  induction rest generalizing seen node with
  | nil =>
      rw [readMembers]
      rfl
  | cons head rest ih =>
      obtain ⟨name, json⟩ := head
      obtain ⟨notLater, others⟩ := List.nodup_cons.mp distinct
      obtain ⟨listed, restListed⟩ := List.cons_subset.mp known
      have here : isForeign name = false := by
        simpa only [isForeign, Bool.not_eq_false', List.contains_iff_mem] using listed
      have notSeen : seen.contains name = false := by
        simpa using unseen name List.mem_cons_self
      rw [readMembers, List.foldlM_cons, here, notSeen]
      refine bind_congr fun next => ih restListed others ?_ next
      intro later inRest inSeen
      rcases List.mem_cons.mp inSeen with same | before
      · exact notLater (same ▸ inRest)
      · exact unseen later (List.mem_cons_of_mem _ inRest) before

/-- Members with distinct names of parts are read one after the other. -/
theorem readMembers_eq_foldlM {members : List (String × Json)}
    (names : (members.map Prod.fst).Subperm partNames) (node : Filter) :
    readMembers Value.ofJson? [] members node = members.foldlM withMember node := by
  obtain ⟨order, perm, kept⟩ := names
  have distinct : partNames.Nodup := by decide
  exact readMembers_of_unseen (fun name present => kept.subset (perm.mem_iff.mpr present))
    (perm.nodup_iff.mp (distinct.sublist kept)) (fun _ _ => List.not_mem_nil) node

section Parts

variable {field : Option String} {value : Option Value} {valueType : Option ValueType}
  {operator : Option Operator} {children : Option (List Filter)}

theorem foldlM_field :
    (part "field" (field.map .string)).foldlM withMember
        ⟨none, value, valueType, operator, children⟩ =
      .ok ⟨field, value, valueType, operator, children⟩ := by
  cases field <;> rfl

theorem foldlM_operator :
    (part "operator" (operator.map fun op => .string op.name)).foldlM withMember
        ⟨field, value, valueType, none, children⟩ =
      .ok ⟨field, value, valueType, operator, children⟩ := by
  cases operator with
  | none => rfl
  | some op =>
      have read : readOperator op.name = .ok op := by rw [readOperator, Operator.ofName?_name]
      change ((readOperator op.name).map fun op => _) >>= _ = _
      rw [read]
      rfl

theorem foldlM_valueType :
    (part "valueType" (valueType.map fun type => .string type.name)).foldlM withMember
        ⟨field, value, none, operator, children⟩ =
      .ok ⟨field, value, valueType, operator, children⟩ := by
  cases valueType with
  | none => rfl
  | some type => cases type <;> rfl

theorem readPart_value {json : Json} {found : Value} (back : Value.ofJson? json = some found)
    (present : found ≠ .null) (node : Filter) :
    readPart Value.ofJson? "value" node json = .ok { node with value := some found } := by
  cases json with
  | null => exact absurd (Option.some.inj back).symm present
  | array items =>
      have other : "value" ≠ "search" := by decide
      simp only [readPart, withPart, other, ↓reduceIte, back]
  | bool b => simp only [readPart, withPart, back]
  | number n => simp only [readPart, withPart, back]
  | string s => simp only [readPart, withPart, back]
  | object members => exact absurd back (Option.some_ne_none _).symm

theorem foldlM_value (plain : ∀ found ∈ value, found.Plain) :
    (part "value" (value.map (Value.toJson .letter))).foldlM withMember
        ⟨field, none, valueType, operator, children⟩ =
      .ok ⟨field, value.filter fun value => !value.isNull, valueType, operator, children⟩ := by
  cases value with
  | none => rfl
  | some found =>
      by_cases absent : found = .null
      · rw [absent]
        rfl
      · have back := Value.ofJson?_toJson .letter found (plain found rfl)
        have kept : (some found).filter (fun value => !value.isNull) = some found := by
          cases found <;> first | rfl | contradiction
        rw [kept, Option.map_some, part, List.foldlM_cons, withMember,
          readPart_value back absent]
        rfl

theorem foldlM_search {search : Option (List Json)}
    (back : search.map (readList Value.ofJson?) = children.map .ok) :
    (part "search" (search.map .array)).foldlM withMember
        ⟨field, value, valueType, operator, none⟩ =
      .ok ⟨field, value, valueType, operator, children⟩ := by
  cases search with
  | none =>
      cases children with
      | none => rfl
      | some nodes => cases back
  | some items =>
      cases children with
      | none => cases back
      | some nodes =>
          have found : readList Value.ofJson? items = .ok nodes := Option.some.inj back
          simp only [Option.map_some, part, List.foldlM_cons, withMember, readPart, ↓reduceIte,
            found]
          rfl

/-- The canonical form of an object of a node. -/
theorem canonical_members (search : Option (List Json)) :
    (Json.object (members (field.map .string) (value.map (Value.toJson .letter))
        (valueType.map fun type => .string type.name)
        (operator.map fun op => .string op.name) (search.map .array))).canonical =
      .object (sortedMembers (field.map .string) (value.map (Value.toJson .letter))
        (valueType.map fun type => .string type.name)
        (operator.map fun op => .string op.name)
        ((search.map Json.canonicalItems).map .array)) := by
  have atValue : Json.canonical ∘ Value.toJson .letter = Value.toJson .letter :=
    funext (Value.canonical_toJson .letter)
  rw [Json.canonical, canonicalMembers_members, ofList_members]
  simp only [Option.map_map, atValue]
  rfl

variable (search : Option (List Json)) (plain : ∀ found ∈ value, found.Plain)
  (back : search.map (readList Value.ofJson?) = children.map .ok)

include plain back

theorem readMembers_members :
    readMembers Value.ofJson? []
        (members (field.map .string) (value.map (Value.toJson .letter))
          (valueType.map fun type => .string type.name)
          (operator.map fun op => .string op.name) (search.map .array)) empty =
      .ok ⟨field, value.filter fun value => !value.isNull, valueType, operator, children⟩ := by
  rw [readMembers_eq_foldlM (names_members ..).subperm]
  simp only [members, List.foldlM_append, empty, foldlM_field, foldlM_value plain,
    foldlM_valueType, foldlM_operator, foldlM_search back, bind, Except.bind]

theorem readMembers_sortedMembers :
    readMembers Value.ofJson? []
        (sortedMembers (field.map .string) (value.map (Value.toJson .letter))
          (valueType.map fun type => .string type.name)
          (operator.map fun op => .string op.name) (search.map .array)) empty =
      .ok ⟨field, value.filter fun value => !value.isNull, valueType, operator, children⟩ := by
  rw [readMembers_eq_foldlM (names_sortedMembers ..)]
  simp only [sortedMembers, List.foldlM_append, empty, foldlM_field, foldlM_value plain,
    foldlM_valueType, foldlM_operator, foldlM_search back, bind, Except.bind]

end Parts

mutual

theorem ofJson_toJson : ∀ filter : Filter, Plain filter →
    ofJson filter.toJson = .ok filter.withoutNulls
  | ⟨_, _, _, _, none⟩, ⟨plain, _⟩ => by
      exact readMembers_members none plain rfl
  | ⟨_, _, _, _, some children⟩, ⟨plain, below⟩ => by
      have back := readList_toJsons children below
      exact readMembers_members (some _) plain (congrArg some back)

theorem readList_toJsons : ∀ nodes : List Filter, PlainList nodes →
    readList Value.ofJson? (toJsons nodes) = .ok (withoutNullsList nodes)
  | [], _ => rfl
  | node :: rest, ⟨plain, others⟩ => by
      have head : read Value.ofJson? node.toJson = .ok node.withoutNulls :=
        ofJson_toJson node plain
      rw [toJsons, readList, head, readList_toJsons rest others]
      rfl

end

mutual

theorem ofJson_canonical_toJson : ∀ filter : Filter, Plain filter →
    ofJson filter.toJson.canonical = .ok filter.withoutNulls
  | ⟨_, _, _, _, none⟩, ⟨plain, _⟩ => by
      rw [toJson]
      refine (congrArg ofJson (canonical_members none)).trans ?_
      exact readMembers_sortedMembers none plain rfl
  | ⟨_, _, _, _, some children⟩, ⟨plain, below⟩ => by
      rw [toJson]
      refine (congrArg ofJson (canonical_members (some (toJsons children)))).trans ?_
      have back := readList_canonicalItems_toJsons children below
      exact readMembers_sortedMembers (some _) plain (congrArg some back)

theorem readList_canonicalItems_toJsons : ∀ nodes : List Filter, PlainList nodes →
    readList Value.ofJson? (Json.canonicalItems (toJsons nodes)) = .ok (withoutNullsList nodes)
  | [], _ => rfl
  | node :: rest, ⟨plain, others⟩ => by
      have head : read Value.ofJson? node.toJson.canonical = .ok node.withoutNulls :=
        ofJson_canonical_toJson node plain
      rw [toJsons, Json.canonicalItems, readList, head,
        readList_canonicalItems_toJsons rest others]
      rfl

end

/-- The JSON of a filter, the members of every object being in the order of writing or in that of
their names. -/
def IsWritten (filter : Filter) (json : Json) : Prop :=
  json = filter.toJson ∨ json = filter.toJson.canonical

theorem ofJson_of_isWritten {filter : Filter} {json : Json} (plain : filter.Plain)
    (written : filter.IsWritten json) : ofJson json = .ok filter.withoutNulls := by
  rcases written with rfl | rfl
  · exact ofJson_toJson filter plain
  · exact ofJson_canonical_toJson filter plain

end Keyset.Filter
