import Keyset.Proofs.Filter.Null

/-! # The nodes of a filter read back

A filter that is written and read back has a node wherever the filter has one. Of its parts only a
value can be lost, and only if it is null. So the filter is the same if no value is null, and what
is read back is the same if it is written and read once more (`Keyset.Filter.ofJson_nodes`).
-/

namespace Keyset.Filter

/-- The node at the end of a path of places among children. -/
def node? : List Nat → Filter → Option Filter
  | [], node => some node
  | place :: path, node => do
    let children ← node.children
    let child ← children[place]?
    node? path child

/-- A node is read back as another one, which has the same parts and as many children, but no value
if the value is null. -/
structure ComesBackAs (node back : Filter) : Prop where
  field : back.field = node.field
  operator : back.operator = node.operator
  valueType : back.valueType = node.valueType
  value : ∀ value, back.value = some value ↔ node.value = some value ∧ value ≠ .null
  children : back.children.map List.length = node.children.map List.length

theorem exists_comesBackAs {node : Filter} {found : Option Filter}
    (related : Option.Rel ComesBackAs (some node) found) :
    ∃ back, found = some back ∧ ComesBackAs node back := by
  cases related with
  | some comesBack => exact ⟨_, rfl, comesBack⟩

/-- No node of a filter has a value that is null. -/
def HasNoNull (filter : Filter) : Prop :=
  ∀ path node, filter.node? path = some node → node.value ≠ some .null

section Nodes

theorem children_withoutNulls (node : Filter) :
    node.withoutNulls.children = node.children.map (List.map withoutNulls) := by
  obtain ⟨field, value, valueType, operator, children⟩ := node
  cases children with
  | none => rfl
  | some children => exact congrArg some (withoutNullsList_eq_map children)

theorem value_withoutNulls (node : Filter) :
    node.withoutNulls.value = node.value.filter fun value => !value.isNull := by
  obtain ⟨field, value, valueType, operator, children⟩ := node
  rfl

theorem comesBackAs_withoutNulls (node : Filter) : ComesBackAs node node.withoutNulls where
  field := by
    obtain ⟨field, value, valueType, operator, children⟩ := node
    rfl
  operator := operator_withoutNulls node
  valueType := by
    obtain ⟨field, value, valueType, operator, children⟩ := node
    rfl
  value := by
    intro value
    rw [value_withoutNulls, Option.filter_eq_some_iff]
    refine and_congr_right fun _ => ?_
    cases value <;> simp [Value.isNull]
  children := by
    rw [children_withoutNulls, Option.map_map]
    congr 1
    funext children
    exact List.length_map withoutNulls

/-- Leaving out nulls and going down a path can be done in either order. -/
theorem node?_withoutNulls (path : List Nat) (filter : Filter) :
    filter.withoutNulls.node? path = (filter.node? path).map withoutNulls := by
  induction path generalizing filter with
  | nil => rfl
  | cons place path ih =>
      rw [node?, node?, children_withoutNulls]
      cases filter.children with
      | none => rfl
      | some children =>
          change ((children.map withoutNulls)[place]? >>= node? path) =
            (children[place]? >>= node? path).map withoutNulls
          rw [List.getElem?_map]
          cases children[place]? with
          | none => rfl
          | some child => exact ih child

theorem hasNoNull_withoutNulls (filter : Filter) : filter.withoutNulls.HasNoNull := by
  intro path node found isNull
  rw [node?_withoutNulls] at found
  obtain ⟨original, _, rfl⟩ := Option.map_eq_some_iff.mp found
  exact (((comesBackAs_withoutNulls original).value _).mp isNull).2 rfl

theorem HasNoNull.of_child {node child : Filter} {children : List Filter}
    (noNull : node.HasNoNull) (search : node.children = some children)
    (inChildren : child ∈ children) : child.HasNoNull := by
  intro path found atPath
  obtain ⟨place, inRange, rfl⟩ := List.getElem_of_mem inChildren
  apply noNull (place :: path)
  rw [node?, search, ← atPath]
  change (children[place]? >>= node? path) = _
  rw [List.getElem?_eq_getElem inRange]
  rfl

theorem filter_isNull_of_ne {value : Option Value} (notNull : value ≠ some .null) :
    (value.filter fun value => !value.isNull) = value := by
  cases value with
  | none => rfl
  | some value => cases value <;> first | rfl | exact absurd rfl notNull

mutual

theorem HasNoNull.withoutNulls_eq : ∀ filter : Filter, filter.HasNoNull →
    filter.withoutNulls = filter
  | ⟨field, value, valueType, operator, none⟩, noNull => by
      rw [withoutNulls, filter_isNull_of_ne (noNull [] _ rfl)]
  | ⟨field, value, valueType, operator, some children⟩, noNull => by
      have below : withoutNullsList children = children :=
        withoutNullsList_eq children fun child inChildren => noNull.of_child rfl inChildren
      rw [withoutNulls, filter_isNull_of_ne (noNull [] _ rfl)]
      dsimp only
      rw [below]

theorem withoutNullsList_eq : ∀ nodes : List Filter, (∀ node ∈ nodes, node.HasNoNull) →
    withoutNullsList nodes = nodes
  | [], _ => rfl
  | node :: rest, noNull => by
      obtain ⟨here, later⟩ := List.forall_mem_cons.mp noNull
      rw [withoutNullsList, HasNoNull.withoutNulls_eq node here, withoutNullsList_eq rest later]

end

theorem withoutNulls_eq_iff (filter : Filter) :
    filter.withoutNulls = filter ↔ filter.HasNoNull := by
  constructor
  · intro same
    rw [← same]
    exact hasNoNull_withoutNulls filter
  · exact HasNoNull.withoutNulls_eq filter

theorem withoutNulls_withoutNulls (filter : Filter) :
    filter.withoutNulls.withoutNulls = filter.withoutNulls :=
  (withoutNulls_eq_iff _).mpr (hasNoNull_withoutNulls filter)

end Nodes

section Written

mutual

theorem Plain.withoutNulls : ∀ filter : Filter, filter.Plain → filter.withoutNulls.Plain
  | ⟨_, _, _, _, none⟩, ⟨plain, _⟩ =>
      ⟨fun found kept => plain found (Option.filter_eq_some_iff.mp kept).1, trivial⟩
  | ⟨_, _, _, _, some children⟩, ⟨plain, below⟩ =>
      ⟨fun found kept => plain found (Option.filter_eq_some_iff.mp kept).1,
        PlainList.withoutNulls children below⟩

theorem PlainList.withoutNulls : ∀ nodes : List Filter, PlainList nodes →
    PlainList (withoutNullsList nodes)
  | [], _ => trivial
  | node :: rest, ⟨plain, others⟩ =>
      ⟨Plain.withoutNulls node plain, PlainList.withoutNulls rest others⟩

end

/-- **What the wire does to a filter.** A filter with plain values is read back from what is
written, node by node: at the end of every path either both filters have a node or neither has, and
two such nodes differ only in a value that is null, which is left out. So the filter is the same iff
it has no null, and what is read back is read back as itself. -/
theorem ofJson_nodes {filter : Filter} {json : Json} (plain : filter.Plain)
    (written : filter.IsWritten json) :
    ∃ back, ofJson json = .ok back ∧
      (∀ path, Option.Rel ComesBackAs (filter.node? path) (back.node? path)) ∧
      (back = filter ↔ filter.HasNoNull) ∧
      ∀ again, back.IsWritten again → ofJson again = .ok back := by
  refine ⟨filter.withoutNulls, ofJson_of_isWritten plain written, ?_,
    withoutNulls_eq_iff filter, ?_⟩
  · intro path
    rw [node?_withoutNulls]
    cases filter.node? path with
    | none => exact .none
    | some node => exact .some (comesBackAs_withoutNulls node)
  · intro again writtenAgain
    have back := ofJson_of_isWritten plain.withoutNulls writtenAgain
    rwa [withoutNulls_withoutNulls] at back

/-- A null below a group is left out, and a list of null beside no children is kept. -/
theorem ofJson_nodes_group :
    let lost : Filter := leaf "deleted" .is .null
    let kept : Filter := { combine .or [] with value := some (.array [.null]) }
    let filter : Filter := grouped "state" .and [lost, kept]
    filter.Plain ∧ filter.IsWritten filter.toJson ∧
      ∃ back, ofJson filter.toJson = .ok back ∧ back ≠ filter ∧
        (∃ node, back.node? [0] = some node ∧ node.field = some "deleted" ∧
          ∀ value, node.value ≠ some value) ∧
        ∃ node, back.node? [1] = some node ∧ node.value = some (.array [.null]) ∧
          node.children.map List.length = some 0 := by
  intro lost kept filter
  have plain : filter.Plain := by
    simp [filter, lost, kept, grouped, combine, leaf, empty, Plain, PlainList, Value.Plain,
      Value.PlainItems]
  have written : filter.IsWritten filter.toJson := Or.inl rfl
  obtain ⟨back, read, nodes, same, -⟩ := ofJson_nodes plain written
  refine ⟨plain, written, back, read, ?_, ?_, ?_⟩
  · intro isSame
    exact same.mp isSame [0] lost rfl rfl
  · have first : Option.Rel ComesBackAs (some lost) (back.node? [0]) := nodes [0]
    obtain ⟨node, found, comesBack⟩ := exists_comesBackAs first
    refine ⟨node, found, comesBack.field, ?_⟩
    intro value present
    obtain ⟨isNull, notNull⟩ := (comesBack.value value).mp present
    exact notNull (Option.some.inj isNull).symm
  · have second : Option.Rel ComesBackAs (some kept) (back.node? [1]) := nodes [1]
    obtain ⟨node, found, comesBack⟩ := exists_comesBackAs second
    have notNull : Value.array [.null] ≠ .null := by
      intro same
      cases same
    exact ⟨node, found, (comesBack.value _).mpr ⟨rfl, notNull⟩, comesBack.children⟩

end Written

end Keyset.Filter
