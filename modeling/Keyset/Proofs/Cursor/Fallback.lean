import Keyset.Cursor

/-! # Cursors that mark no place

A condition that constrains nothing lets every record through, so it matters when there is one. The
place of a cursor has a defect iff the field of the ids has no name, the ids are no level of the
order or the cursor has no id, and the first of these is the one that is reported. Without a defect
the fallback counts for nothing: the condition compares every field of the order with the value of
the cursor, by comparisons of order only (`Keyset.CursorCondition.compares_of_mem_leaves`). So the
condition of a page is no constraint, or is refused, exactly for a cursor that marks no place
(`Keyset.CursorCondition.build_unconstrained_iff`).
-/

namespace Keyset

namespace Predicate

mutual

/-- The parts of a predicate that are neither conjunctions nor disjunctions of others. -/
def leaves : Predicate → List Predicate
  | and parts => leavesAll parts
  | or parts => leavesAll parts
  | leaf => [leaf]

def leavesAll : List Predicate → List Predicate
  | [] => []
  | part :: rest => leaves part ++ leavesAll rest

end

end Predicate

/-- The defects that are reported rather than this one. -/
def CursorDefect.earlier : CursorDefect → List CursorDefect
  | missingIdField => []
  | orderWithoutId => [missingIdField]
  | cursorWithoutId => [missingIdField, orderWithoutId]

namespace CursorCondition

variable (condition : CursorCondition) (direction : PageDirection)

/-- The same place with another fallback. -/
def withFallback (fallback : Fallback) : CursorCondition :=
  { condition with fallback := fallback }

/-- The place has that defect. -/
def HasDefect : CursorDefect → Prop
  | .missingIdField => condition.idField = ""
  | .orderWithoutId => ∀ entry ∈ condition.order, entry.field ≠ condition.idField
  | .cursorWithoutId => condition.cursor.get? condition.idField = none

/-- The place has that defect and no earlier one. -/
def IsFirstDefect (defect : CursorDefect) : Prop :=
  condition.HasDefect defect ∧ ∀ earlier ∈ defect.earlier, ¬condition.HasDefect earlier

theorem IsFirstDefect.unique {condition : CursorCondition} {defect other : CursorDefect}
    (first : condition.IsFirstDefect defect) (alsoFirst : condition.IsFirstDefect other) :
    defect = other := by
  cases defect <;> cases other <;> first
    | rfl
    | exact absurd first.1 (alsoFirst.2 _ (by decide))
    | exact absurd alsoFirst.1 (first.2 _ (by decide))

/-- The defect that is found is the first one. -/
theorem defect?_cases :
    (∃ defect, condition.defect? = some defect ∧ condition.IsFirstDefect defect) ∨
      condition.defect? = none ∧ ∀ defect, ¬condition.HasDefect defect := by
  have noName : condition.idField.isEmpty = true ↔ condition.HasDefect .missingIdField :=
    String.isEmpty_iff
  have unordered : (!Order.hasField condition.order condition.idField) = true ↔
      condition.HasDefect .orderWithoutId := by
    simp [Order.hasField, HasDefect]
  have noId : (!condition.cursor.contains condition.idField) = true ↔
      condition.HasDefect .cursorWithoutId := by
    simp [FieldMap.contains, HasDefect]
  rw [defect?]
  split
  next first => exact Or.inl ⟨_, rfl, noName.mp first, List.forall_mem_nil _⟩
  next named =>
    split
    next first =>
      refine Or.inl ⟨_, rfl, unordered.mp first, ?_⟩
      simpa [CursorDefect.earlier] using mt noName.mpr named
    next ordered =>
      split
      next first =>
        refine Or.inl ⟨_, rfl, noId.mp first, ?_⟩
        simpa [CursorDefect.earlier] using ⟨mt noName.mpr named, mt unordered.mpr ordered⟩
      next has =>
        refine Or.inr ⟨rfl, fun defect => ?_⟩
        cases defect with
        | missingIdField => exact mt noName.mpr named
        | orderWithoutId => exact mt unordered.mpr ordered
        | cursorWithoutId => exact mt noId.mpr has

theorem levels_withFallback (fallback : Fallback) (order : Order) :
    (condition.withFallback fallback).levels direction order =
      condition.levels direction order := by
  induction order with
  | nil => rfl
  | cons entry further ih =>
      cases further with
      | nil => rfl
      | cons next rest =>
          simp only [levels] at ih ⊢
          rw [ih]
          rfl

/-- The predicate compares the field of a level with the value of the cursor, as to their order. -/
def Compares (entry : OrderEntry) (predicate : Predicate) : Prop :=
  ∃ op ∈ [Operator.gt, .gte, .lt, .lte],
    predicate = .compare entry.field op (condition.cursor.value entry.field)

theorem compares_strict (entry : OrderEntry) :
    condition.Compares entry (.compare entry.field (direction.strict entry.direction)
      (condition.cursor.value entry.field)) := by
  refine ⟨_, ?_, rfl⟩
  cases direction <;> cases entry.direction <;> decide

theorem compares_boundary (entry : OrderEntry) :
    condition.Compares entry (.compare entry.field (condition.boundary direction entry)
      (condition.cursor.value entry.field)) := by
  rw [boundary]
  split
  next => exact condition.compares_strict direction entry
  next =>
    refine ⟨_, ?_, rfl⟩
    cases direction <;> cases entry.direction <;> decide

theorem levels_ne_unconstrained {order : Order} (some : order ≠ []) :
    condition.levels direction order ≠ .unconstrained := by
  obtain ⟨entry, further, rfl⟩ := List.exists_cons_of_ne_nil some
  cases further <;> nofun

theorem leaves_levels_cons (entry next : OrderEntry) (rest : Order) :
    (condition.levels direction (entry :: next :: rest)).leaves =
      .compare entry.field (condition.boundary direction entry)
          (condition.cursor.value entry.field) ::
        .compare entry.field (direction.strict entry.direction)
          (condition.cursor.value entry.field) ::
        (condition.levels direction (next :: rest)).leaves := by
  simp only [levels, Predicate.leaves, Predicate.leavesAll, List.append_nil, List.singleton_append]

/-- Every level is compared. -/
theorem exists_leaf_of_mem {order : Order} {entry : OrderEntry} (member : entry ∈ order) :
    ∃ leaf ∈ (condition.levels direction order).leaves, condition.Compares entry leaf := by
  induction order with
  | nil => cases member
  | cons first further ih =>
      cases further with
      | nil =>
          obtain rfl := List.mem_singleton.mp member
          exact ⟨_, List.mem_singleton_self _, condition.compares_boundary direction entry⟩
      | cons next rest =>
          rw [leaves_levels_cons]
          rcases List.mem_cons.mp member with rfl | later
          · exact ⟨_, List.mem_cons_self, condition.compares_boundary direction entry⟩
          · obtain ⟨leaf, present, compares⟩ := ih later
            exact ⟨leaf, List.mem_cons_of_mem _ (List.mem_cons_of_mem _ present), compares⟩

/-- Nothing but levels is compared. -/
theorem compares_of_mem_leaves {order : Order} (some : order ≠ []) {leaf : Predicate}
    (present : leaf ∈ (condition.levels direction order).leaves) :
    ∃ entry ∈ order, condition.Compares entry leaf := by
  induction order with
  | nil => exact absurd rfl some
  | cons entry further ih =>
      cases further with
      | nil =>
          obtain rfl := List.mem_singleton.mp present
          exact ⟨entry, List.mem_cons_self, condition.compares_boundary direction entry⟩
      | cons next rest =>
          rw [leaves_levels_cons, List.mem_cons, List.mem_cons] at present
          rcases present with rfl | rfl | later
          · exact ⟨entry, List.mem_cons_self, condition.compares_boundary direction entry⟩
          · exact ⟨entry, List.mem_cons_self, condition.compares_strict direction entry⟩
          · obtain ⟨level, member, compares⟩ := ih (List.cons_ne_nil _ _) later
            exact ⟨level, List.mem_cons_of_mem _ member, compares⟩

theorem build_withFallback (sound : condition.defect? = none) (fallback : Fallback) :
    (condition.withFallback fallback).build direction =
      .ok (condition.levels direction condition.order) := by
  have sound : (condition.withFallback fallback).defect? = none := sound
  rw [build, sound, levels_withFallback]
  rfl

theorem build_lenient {defect : CursorDefect} (found : condition.defect? = some defect) :
    (condition.withFallback .unconstrained).build direction = .ok .unconstrained := by
  have found : (condition.withFallback .unconstrained).defect? = some defect := found
  rw [build, found]
  rfl

theorem build_strict {defect : CursorDefect} (found : condition.defect? = some defect) :
    (condition.withFallback .reject).build direction = .error defect := by
  have found : (condition.withFallback .reject).defect? = some defect := found
  rw [build, found]
  rfl

theorem pageCondition_of_lenient {predicate : Predicate}
    (built : (condition.withFallback .unconstrained).build direction = .ok predicate) :
    pageCondition direction condition.order condition.cursor condition.idField
      condition.inclusive = predicate := by
  have built : (CursorCondition.mk condition.order condition.cursor condition.idField
      condition.inclusive .unconstrained).build direction = .ok predicate := built
  rw [pageCondition, built]

/-- **Only defects leave a page unconstrained.** With the lenient fallback a condition is always
built, and it is no constraint iff the place has a defect; exactly then the strict fallback refuses
it, for the first defect. Otherwise the fallback counts for nothing, and the condition compares all
levels of the order, and them only, by comparisons of order. -/
theorem build_unconstrained_iff (condition : CursorCondition) (direction : PageDirection) :
    let lenient := (condition.withFallback .unconstrained).build direction
    let strict := (condition.withFallback .reject).build direction
    lenient = .ok (pageCondition direction condition.order condition.cursor condition.idField
        condition.inclusive) ∧
      (lenient = .ok .unconstrained ↔ ∃ defect, condition.HasDefect defect) ∧
      ((∃ defect, strict = .error defect) ↔ ∃ defect, condition.HasDefect defect) ∧
      (∀ defect, strict = .error defect ↔ condition.IsFirstDefect defect) ∧
      ((∀ defect, ¬condition.HasDefect defect) →
        ∃ predicate, lenient = .ok predicate ∧ strict = .ok predicate ∧
          predicate ≠ .unconstrained ∧
          (∀ entry ∈ condition.order, ∃ leaf ∈ predicate.leaves, condition.Compares entry leaf) ∧
          ∀ leaf ∈ predicate.leaves, ∃ entry ∈ condition.order, condition.Compares entry leaf) := by
  intro lenient strict
  rcases condition.defect?_cases with ⟨defect, found, first⟩ | ⟨noDefect, sound⟩
  · have isLenient : lenient = .ok .unconstrained := condition.build_lenient direction found
    have isStrict : strict = .error defect := condition.build_strict direction found
    have present : ∃ defect, condition.HasDefect defect := ⟨defect, first.1⟩
    refine ⟨?_, iff_of_true isLenient present, iff_of_true ⟨defect, isStrict⟩ present,
      fun other => ⟨fun isOther => ?_, fun alsoFirst => ?_⟩, fun sound => absurd first.1 (sound _)⟩
    · rw [condition.pageCondition_of_lenient direction isLenient, isLenient]
    · exact Except.error.inj (isStrict.symm.trans isOther) ▸ first
    · exact first.unique alsoFirst ▸ isStrict
  · have isLenient : lenient = .ok (condition.levels direction condition.order) :=
      condition.build_withFallback direction noDefect _
    have isStrict : strict = .ok (condition.levels direction condition.order) :=
      condition.build_withFallback direction noDefect _
    have absent : ¬∃ defect, condition.HasDefect defect := fun ⟨defect, has⟩ => sound defect has
    -- The ids are a level, so there is one.
    have ordered : condition.order ≠ [] := fun none => by
      apply sound .orderWithoutId
      rw [HasDefect, none]
      exact List.forall_mem_nil _
    have constrains := condition.levels_ne_unconstrained direction ordered
    refine ⟨?_, iff_of_false (fun free => ?_) absent, iff_of_false ?_ absent, fun defect => ?_,
      fun _ => ⟨_, isLenient, isStrict, constrains, ?_, ?_⟩⟩
    · rw [condition.pageCondition_of_lenient direction isLenient, isLenient]
    · exact constrains (Except.ok.inj (isLenient.symm.trans free))
    · rintro ⟨defect, refused⟩
      cases isStrict.symm.trans refused
    · exact iff_of_false (fun refused => nomatch isStrict.symm.trans refused)
        fun first => sound defect first.1
    · exact fun entry => condition.exists_leaf_of_mem direction
    · exact fun leaf => condition.compares_of_mem_leaves direction ordered

/-- A field without a name occurs twice, and the cursor has no value for it. -/
theorem build_unconstrained_iff_nameless :
    let place : CursorCondition := ⟨[⟨"", .asc⟩, ⟨"id", .desc⟩, ⟨"", .desc⟩],
      FieldMap.ofList [("id", .int 3)], "id", false, .reject⟩
    (∀ defect, ¬place.HasDefect defect) ∧
      ∃ predicate, (place.withFallback .unconstrained).build .backward = .ok predicate ∧
        place.build .backward = .ok predicate ∧ predicate ≠ .unconstrained := by
  intro place
  have sound : ∀ defect, ¬place.HasDefect defect
    | .missingIdField => by unfold HasDefect; decide
    | .orderWithoutId => by unfold HasDefect; decide
    | .cursorWithoutId => nofun
  obtain ⟨-, -, -, -, constrained⟩ := place.build_unconstrained_iff .backward
  obtain ⟨predicate, lenient, strict, constrains, -⟩ := constrained sound
  exact ⟨sound, predicate, lenient, strict, constrains⟩

end CursorCondition

end Keyset
