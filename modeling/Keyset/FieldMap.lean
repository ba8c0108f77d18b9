/-! # Maps from field names

Finite maps from field names to values, kept as lists of pairs in strictly increasing
order of the names. The order is part of the type, so that two maps with the same values
are equal (`Keyset.FieldMap.eq_of_get?_eq`), and a map is the map of its own members
(`Keyset.FieldMap.ofList_members`).
-/

namespace Keyset

/-- The names of the members increase strictly. -/
def FieldsSorted {α : Type} (members : List (String × α)) : Prop :=
  members.Pairwise fun first second => first.1 < second.1

/-- A finite map from field names. -/
structure FieldMap (α : Type) where
  members : List (String × α)
  sorted : FieldsSorted members

namespace FieldMap

variable {α β : Type}

/-- A map is determined by its members. -/
theorem eq_of_members_eq {first second : FieldMap α} (same : first.members = second.members) :
    first = second := by
  cases first
  cases second
  exact (FieldMap.mk.injEq _ _ _ _).mpr same

/-- The map with no members. -/
def empty : FieldMap α :=
  ⟨[], List.Pairwise.nil⟩

instance : Inhabited (FieldMap α) := ⟨empty⟩

/-- The members with a value put at a name, in place of the value there. -/
def insertMember (name : String) (value : α) : List (String × α) → List (String × α)
  | [] => [(name, value)]
  | (key, old) :: rest =>
    if name < key then (name, value) :: (key, old) :: rest
    else if name = key then (name, value) :: rest
    else (key, old) :: insertMember name value rest

/-- The value of the first member of that name. -/
def findMember? (name : String) : List (String × α) → Option α
  | [] => none
  | (key, value) :: rest => if name = key then some value else findMember? name rest

theorem mem_of_mem_insertMember {name : String} {value : α} {members : List (String × α)}
    {member : String × α} (present : member ∈ insertMember name value members) :
    member = (name, value) ∨ member ∈ members := by
  induction members with
  | nil => exact Or.inl (List.mem_singleton.mp present)
  | cons head rest ih =>
      simp only [insertMember] at present
      split at present
      · exact List.mem_cons.mp present
      · split at present
        · exact (List.mem_cons.mp present).imp_right (List.mem_cons_of_mem _)
        · rcases List.mem_cons.mp present with same | later
          · exact Or.inr (same ▸ List.mem_cons_self)
          · exact (ih later).imp_right (List.mem_cons_of_mem _)

theorem sorted_insertMember (name : String) (value : α) {members : List (String × α)}
    (sorted : FieldsSorted members) : FieldsSorted (insertMember name value members) := by
  induction members with
  | nil => exact List.pairwise_singleton _ _
  | cons head rest ih =>
      obtain ⟨later, tail⟩ := List.pairwise_cons.mp sorted
      simp only [insertMember]
      split
      next before =>
        refine List.pairwise_cons.mpr ⟨fun member present => ?_, sorted⟩
        rcases List.mem_cons.mp present with same | inTail
        · exact same ▸ before
        · exact String.lt_trans before (later member inTail)
      next notBefore =>
        split
        next same =>
          exact List.pairwise_cons.mpr ⟨fun member present => same ▸ later member present, tail⟩
        next different =>
          refine List.pairwise_cons.mpr ⟨fun member present => ?_, ih tail⟩
          rcases mem_of_mem_insertMember present with inserted | inTail
          · rw [inserted]
            exact String.not_le.mp fun notAfter =>
              different (String.le_antisymm notAfter (String.not_lt.mp notBefore))
          · exact later member inTail

/-- The map with a value put at a name. -/
def insert (map : FieldMap α) (name : String) (value : α) : FieldMap α :=
  ⟨insertMember name value map.members, sorted_insertMember name value map.sorted⟩

/-- The value at a name. -/
def get? (map : FieldMap α) (name : String) : Option α :=
  findMember? name map.members

/-- Whether the map has a value at a name. -/
def contains (map : FieldMap α) (name : String) : Bool :=
  (map.get? name).isSome

/-- The map of a list of members; of two members with one name the later one counts. -/
def ofList (members : List (String × α)) : FieldMap α :=
  members.foldl (fun map member => map.insert member.1 member.2) empty

/-- How many members the map has. -/
def size (map : FieldMap α) : Nat :=
  map.members.length

/-- The members at the given names that the map has. -/
def restrict (map : FieldMap α) (names : List String) : FieldMap α :=
  ofList (names.filterMap fun name => (map.get? name).map fun value => (name, value))

/-- The map with every value replaced by its image. -/
def mapValues (f : α → β) (map : FieldMap α) : FieldMap β :=
  ⟨map.members.map fun member => (member.1, f member.2), by
    have sorted : map.members.Pairwise fun first second => first.1 < second.1 := map.sorted
    exact List.pairwise_map.mpr sorted⟩

@[simp] theorem get?_empty (name : String) : (empty : FieldMap α).get? name = none := rfl

theorem findMember?_insertMember (name other : String) (value : α)
    (members : List (String × α)) :
    findMember? other (insertMember name value members) =
      if other = name then some value else findMember? other members := by
  induction members with
  | nil => rfl
  | cons head rest ih =>
      obtain ⟨key, old⟩ := head
      simp only [insertMember]
      split
      · rfl
      · split
        next same =>
          subst same
          simp only [findMember?]
          split <;> rfl
        next different =>
          simp only [findMember?, ih]
          split
          next atKey =>
            split
            next atName => exact absurd (atName.symm.trans atKey) different
            next => rfl
          next => rfl

/-- Writing at a name changes the value there and no other. -/
theorem get?_insert (map : FieldMap α) (name other : String) (value : α) :
    (map.insert name value).get? other = if other = name then some value else map.get? other :=
  findMember?_insertMember name other value map.members

theorem insertMember_of_before {name : String} {front : List (String × α)}
    (before : ∀ member ∈ front, member.1 < name) (value : α) :
    insertMember name value front = front ++ [(name, value)] := by
  induction front with
  | nil => rfl
  | cons head rest ih =>
      have first := before head List.mem_cons_self
      simp only [insertMember, String.lt_asymm first, ↓reduceIte, List.cons_append]
      split
      next same => exact absurd (same ▸ first) (String.lt_irrefl _)
      next => rw [ih fun member present => before member (List.mem_cons_of_mem _ present)]

/-- Members that follow those of a map in order are put behind them. -/
theorem members_foldl_insert {front : FieldMap α} {rest : List (String × α)}
    (sorted : FieldsSorted (front.members ++ rest)) :
    (rest.foldl (fun map member => map.insert member.1 member.2) front).members =
      front.members ++ rest := by
  induction rest generalizing front with
  | nil => simp only [List.foldl_nil, List.append_nil]
  | cons head tail ih =>
      have before : ∀ member ∈ front.members, member.1 < head.1 := fun member present =>
        (List.pairwise_append.mp sorted).2.2 member present head List.mem_cons_self
      have inserted : (front.insert head.1 head.2).members = front.members ++ [head] :=
        insertMember_of_before before head.2
      have whole : (front.insert head.1 head.2).members ++ tail = front.members ++ head :: tail := by
        rw [inserted, List.append_assoc, List.singleton_append]
      rw [List.foldl_cons, ih (whole ▸ sorted), whole]

/-- The map of a sorted list of members has just these members. -/
theorem ofList_members (map : FieldMap α) : ofList map.members = map :=
  eq_of_members_eq (members_foldl_insert map.sorted)

theorem get?_mapValues (f : α → β) (map : FieldMap α) (name : String) :
    (map.mapValues f).get? name = (map.get? name).map f := by
  obtain ⟨members, _⟩ := map
  simp only [get?, mapValues]
  induction members with
  | nil => rfl
  | cons head rest ih =>
      simp only [List.map_cons, findMember?]
      split
      · rfl
      · exact ih (List.Pairwise.of_cons ‹_›)

theorem findMember?_eq_none_of_before {name : String} {members : List (String × α)}
    (before : ∀ member ∈ members, name < member.1) : findMember? name members = none := by
  induction members with
  | nil => rfl
  | cons head rest ih =>
      simp only [findMember?]
      split
      next same =>
        exact absurd (same ▸ before head List.mem_cons_self) (String.lt_irrefl _)
      next => exact ih fun member present => before member (List.mem_cons_of_mem _ present)

theorem findMember?_cons_self (member : String × α) (rest : List (String × α)) :
    findMember? member.1 (member :: rest) = some member.2 := by
  rw [findMember?, if_pos rfl]

/-- A sorted list that has a value at a name does not start behind it. -/
theorem not_lt_of_findMember?_eq {first second : String × α} {rest others : List (String × α)}
    (sorted : FieldsSorted (second :: others))
    (agree : findMember? first.1 (first :: rest) = findMember? first.1 (second :: others)) :
    ¬first.1 < second.1 := by
  intro before
  have later : ∀ member ∈ others, first.1 < member.1 := fun member present =>
    String.lt_trans before ((List.pairwise_cons.mp sorted).1 member present)
  have absent := findMember?_eq_none_of_before (List.forall_mem_cons.mpr ⟨before, later⟩)
  rw [findMember?_cons_self, absent] at agree
  cases agree

theorem eq_of_findMember?_eq {left right : List (String × α)} (leftSorted : FieldsSorted left)
    (rightSorted : FieldsSorted right)
    (agree : ∀ name, findMember? name left = findMember? name right) : left = right := by
  induction left generalizing right with
  | nil =>
      cases right with
      | nil => rfl
      | cons other others =>
          have atOther := agree other.1
          rw [findMember?_cons_self] at atOther
          cases atOther
  | cons head rest ih =>
      cases right with
      | nil =>
          have atHead := agree head.1
          rw [findMember?_cons_self] at atHead
          cases atHead
      | cons other others =>
          have names : head.1 = other.1 := String.le_antisymm
            (String.not_lt.mp (not_lt_of_findMember?_eq leftSorted (agree other.1).symm))
            (String.not_lt.mp (not_lt_of_findMember?_eq rightSorted (agree head.1)))
          have values := agree head.1
          rw [findMember?_cons_self, names, findMember?_cons_self] at values
          obtain rfl : head = other := Prod.ext names (Option.some.inj values)
          obtain ⟨leftLater, leftTail⟩ := List.pairwise_cons.mp leftSorted
          obtain ⟨rightLater, rightTail⟩ := List.pairwise_cons.mp rightSorted
          refine congrArg _ (ih leftTail rightTail fun name => ?_)
          have atName := agree name
          simp only [findMember?] at atName
          split at atName
          next here =>
            subst here
            rw [findMember?_eq_none_of_before leftLater, findMember?_eq_none_of_before rightLater]
          next => exact atName

/-- Maps with the same value at every name are equal. -/
theorem eq_of_get?_eq {first second : FieldMap α}
    (same : ∀ name, first.get? name = second.get? name) : first = second :=
  eq_of_members_eq (eq_of_findMember?_eq first.sorted second.sorted same)

end FieldMap

end Keyset
