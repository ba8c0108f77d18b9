import Mathlib.Data.List.Nodup
import Keyset.FieldMap

/-! # Maps of lists

A restricted map has the values of the map at the given names and no others
(`Keyset.FieldMap.get?_restrict`), whatever the order of the names and their repetitions. The
order of members with distinct names is nothing to their map (`Keyset.FieldMap.ofList_perm`).
-/

namespace Keyset.FieldMap

variable {α : Type}

/-- The values put at a name are all the same, so a later one changes nothing. -/
theorem get?_foldl_insert (map front : FieldMap α) (names : List String) (name : String) :
    ((names.filterMap fun field => (map.get? field).map fun value => (field, value)).foldl
        (fun map member => map.insert member.1 member.2) front).get? name =
      if name ∈ names ∧ (map.get? name).isSome then map.get? name else front.get? name := by
  induction names generalizing front with
  | nil => simp
  | cons field rest ih =>
      cases found : map.get? field with
      | none =>
          rw [List.filterMap_cons_none (by simp [found]), ih]
          by_cases same : name = field
          · subst same
            simp [found]
          · simp [same]
      | some value =>
          rw [List.filterMap_cons_some (by simp [found]; rfl), List.foldl_cons, ih, get?_insert]
          by_cases same : name = field
          · subst same
            simp [found]
          · simp [same]

theorem get?_restrict (map : FieldMap α) (names : List String) (name : String) :
    (map.restrict names).get? name = if name ∈ names then map.get? name else none := by
  rw [restrict, ofList, get?_foldl_insert]
  by_cases listed : name ∈ names
  · cases found : map.get? name <;> simp [listed]
  · simp [listed]

theorem mem_of_mem_foldl_insert {rest : List (String × α)} {front : FieldMap α}
    {member : String × α} (present :
      member ∈ (rest.foldl (fun map member => map.insert member.1 member.2) front).members) :
    member ∈ rest ∨ member ∈ front.members := by
  induction rest generalizing front with
  | nil => exact Or.inr present
  | cons head rest ih =>
      rcases ih present with inRest | inInsert
      · exact Or.inl (List.mem_cons_of_mem _ inRest)
      · rcases mem_of_mem_insertMember inInsert with same | inFront
        · exact Or.inl (same ▸ List.mem_cons_self)
        · exact Or.inr inFront

/-- Every member of the map of a list is a member of the list. -/
theorem mem_of_mem_ofList {members : List (String × α)} {member : String × α}
    (present : member ∈ (ofList members).members) : member ∈ members :=
  (mem_of_mem_foldl_insert present).resolve_right List.not_mem_nil

theorem get?_of_mem {map : FieldMap α} {name : String} {value : α}
    (member : (name, value) ∈ map.members) : map.get? name = some value := by
  obtain ⟨members, sorted⟩ := map
  simp only [get?]
  induction members with
  | nil => contradiction
  | cons head rest ih =>
      obtain ⟨later, tail⟩ := List.pairwise_cons.mp sorted
      rcases List.mem_cons.mp member with same | inRest
      · subst same
        simp only [findMember?, ↓reduceIte]
      · have after := later _ inRest
        rw [findMember?, if_neg fun same => String.lt_irrefl _ (same ▸ after), ih tail inRest]

theorem mem_of_get? {map : FieldMap α} {name : String} {value : α}
    (found : map.get? name = some value) : (name, value) ∈ map.members := by
  obtain ⟨members, _⟩ := map
  simp only [get?] at found
  induction members with
  | nil => contradiction
  | cons head rest ih =>
      obtain ⟨key, here⟩ := head
      rw [findMember?] at found
      split at found
      next same =>
        obtain rfl := Option.some.inj found
        exact same ▸ List.mem_cons_self
      next => exact List.mem_cons_of_mem _ (ih (List.Pairwise.of_cons ‹_›) found)

/-- Values put at different names may be put in either order. -/
theorem insert_comm (map : FieldMap α) {first second : String × α}
    (different : first.1 ≠ second.1) :
    (map.insert first.1 first.2).insert second.1 second.2 =
      (map.insert second.1 second.2).insert first.1 first.2 := by
  apply eq_of_get?_eq
  intro name
  simp only [get?_insert]
  split
  next atSecond =>
    rw [if_neg fun atFirst => different (atFirst.symm.trans atSecond)]
  next => rfl

/-- Members with distinct names make the same map in every order. -/
theorem ofList_perm {members others : List (String × α)} (perm : members.Perm others)
    (distinct : (members.map Prod.fst).Nodup) : ofList members = ofList others := by
  apply perm.foldl_eq'
  intro first inFirst second inSecond map
  by_cases same : first = second
  · rw [same]
  · apply insert_comm map
    intro named
    exact same (List.inj_on_of_nodup_map distinct inFirst inSecond named)

end Keyset.FieldMap
