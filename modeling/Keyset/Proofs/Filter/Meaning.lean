import Keyset.Cql
import Keyset.Proofs.Filter.Null

/-! # The meaning of a filter read back

On the wire a node that compares with null loses its value, and with it its constraint. A filter
without such a node keeps its meaning in both stores; a filter with one does not, in either
(`Keyset.Filter.written_keeps_meaning`). In a conjunction of CQL the loss shows in the number of
characters, since the text of no part grows and that of one part vanishes.
-/

namespace Keyset

namespace Cql

variable (declarations : Declarations) {node : Filter}
  {conjunction : List Filter → Except CompileError String}

theorem nodeText_withoutNulls (noNull : ¬node.comparesWithNull)
    (joined : ∀ children : List Filter, (∀ child ∈ children, ¬child.comparesWithNull) →
      conjunction (children.map Filter.withoutNulls) = conjunction children) :
    nodeText declarations conjunction node.withoutNulls =
      nodeText declarations conjunction node := by
  rw [Filter.comparesWithNull_eq_shape] at noNull
  rw [nodeText, nodeText, Filter.operator_withoutNulls, Filter.shape_withoutNulls,
    Filter.parsedValue_withoutNulls]
  cases shaped : node.shape with
  | empty => rfl
  | global op value =>
      rw [shaped, Filter.Shape.comparesWithNull] at noNull
      rw [Filter.Shape.withoutNulls, if_neg noNull]
  | leaf field op value =>
      rw [shaped, Filter.Shape.comparesWithNull] at noNull
      rw [Filter.Shape.withoutNulls, if_neg noNull]
  | combine op children =>
      rw [shaped] at noNull
      have same := joined children fun child present compares =>
        noNull (List.any_eq_true.mpr ⟨child, present, compares⟩)
      cases op with
      | and => simp only [Filter.Shape.withoutNulls, same]
      | _ => rfl
  | grouped field op children => rfl

theorem partText_withoutNulls (noNull : ¬node.comparesWithNull) :
    partText declarations node.withoutNulls = partText declarations node :=
  nodeText_withoutNulls declarations noNull fun _ _ => rfl

theorem conjunctionText_withoutNulls {children : List Filter}
    (noNull : ∀ child ∈ children, ¬child.comparesWithNull) :
    conjunctionText declarations (children.map Filter.withoutNulls) =
      conjunctionText declarations children := by
  have parts : (children.map Filter.withoutNulls).mapM (partText declarations) =
      children.mapM (partText declarations) :=
    mapM_map_eq fun child present =>
      partText_withoutNulls declarations (noNull child present)
  rw [conjunctionText, conjunctionText, parts]

theorem condition_withoutNulls (allowFiltering : Bool) (noNull : ¬node.comparesWithNull) :
    condition declarations allowFiltering node.withoutNulls =
      condition declarations allowFiltering node := by
  have text := nodeText_withoutNulls declarations noNull fun _ =>
    conjunctionText_withoutNulls declarations
  rw [condition, condition, text]

section Losses

variable {declarations}

theorem relation_ne_empty {field : String} {op : Operator} {value : Value} :
    relation declarations field op value ≠ .ok "" := by
  intro made
  unfold relation at made
  split at made
  · simp [tokenRelation] at made
  · simp [tokenRelation] at made
  · cases symbol : relationSymbol op with
    | error cause => simp [symbol, Except.map] at made
    | ok sign => simp [symbol, Except.map] at made

/-- A node that compares with null and has a text is a relation, whose text is lost, or a
conjunction. -/
theorem nodeText_of_comparesWithNull {conjunction : List Filter → Except CompileError String}
    (compares : node.comparesWithNull) {text : String}
    (made : nodeText declarations conjunction node = .ok text) :
    (text ≠ "" ∧ nodeText declarations conjunction node.withoutNulls = .ok "") ∨
      ∃ children : List Filter, (∃ child ∈ children, child.comparesWithNull) ∧
        conjunction children = .ok text ∧
        nodeText declarations conjunction node.withoutNulls =
          conjunction (children.map Filter.withoutNulls) := by
  rw [Filter.comparesWithNull_eq_shape] at compares
  rw [nodeText, Filter.operator_withoutNulls, Filter.shape_withoutNulls]
  unfold nodeText at made
  split at made
  next => cases made
  next notOr =>
    rw [if_neg notOr]
    split at made
    next shaped =>
      rw [shaped] at compares
      cases compares
    next => cases made
    next field op value shaped =>
      rw [shaped, Filter.Shape.comparesWithNull] at compares
      rw [shaped, Filter.Shape.withoutNulls, if_pos compares]
      refine Or.inl ⟨?_, rfl⟩
      rintro rfl
      exact relation_ne_empty made
    next children shaped =>
      rw [shaped] at compares
      rw [shaped]
      exact Or.inr ⟨children, List.any_eq_true.mp compares, made, rfl⟩
    next => cases made
    next => cases made

/-- The characters that a part takes in a conjunction, with those of one separator. -/
def share (part : String) : Nat :=
  if part.isEmpty then 0 else part.length + 5

/-- The characters that parts take in a conjunction, with a separator for each. -/
def extent : List String → Nat
  | [] => 0
  | part :: rest => share part + extent rest

theorem extent_filter (parts : List String) :
    extent (parts.filter fun part => !part.isEmpty) = extent parts := by
  induction parts with
  | nil => rfl
  | cons part rest ih =>
      rw [List.filter_cons, extent, ← ih]
      cases nothing : part.isEmpty with
      | true =>
          rw [share, if_pos nothing, Nat.zero_add]
          rfl
      | false => rfl

theorem length_intercalate {parts : List String} (nonempty : parts ≠ [])
    (kept : ∀ part ∈ parts, part.isEmpty = false) :
    (" and ".intercalate parts).length + 5 = extent parts := by
  induction parts with
  | nil => contradiction
  | cons part rest ih =>
      have here : share part = part.length + 5 := by
        rw [share, kept part List.mem_cons_self]
        rfl
      cases rest with
      | nil => rw [String.intercalate_singleton, extent, here, extent, Nat.add_zero]
      | cons next rest =>
          have later := ih (List.cons_ne_nil _ _)
            fun other inRest => kept other (List.mem_cons_of_mem _ inRest)
          have separator : " and ".length = 5 := rfl
          rw [String.intercalate_cons_cons, String.length_append, String.length_append, extent,
            here, ← later, separator]
          omega

theorem length_joined (parts : List String) :
    (" and ".intercalate (parts.filter fun part => !part.isEmpty)).length =
      extent parts - 5 := by
  rw [← extent_filter]
  by_cases nothing : (parts.filter fun part => !part.isEmpty) = []
  · rw [nothing]
    rfl
  · rw [← length_intercalate nothing, Nat.add_sub_cancel]
    intro part present
    simpa using (List.mem_filter.mp present).2

/-- Leaving out nulls makes no part longer, and takes all characters from a part that compares with
null. -/
theorem share_withoutNulls {text short : String} (made : partText declarations node = .ok text)
    (again : partText declarations node.withoutNulls = .ok short) :
    share short ≤ share text ∧ (node.comparesWithNull → share short + 5 < share text) := by
  by_cases compares : node.comparesWithNull
  · rcases nodeText_of_comparesWithNull compares made with ⟨text_ne, lost⟩ | ⟨_, _, nested, _⟩
    · obtain rfl := Except.ok.inj (again.symm.trans lost)
      have kept : text.isEmpty = false := by simpa using text_ne
      have characters : 0 < text.length :=
        Nat.pos_of_ne_zero fun zero => text_ne (String.length_eq_zero_iff.mp zero)
      have longer : share "" + 5 < share text := by
        rw [share, share, kept]
        exact Nat.lt_add_of_pos_left characters
      exact ⟨Nat.le_trans (Nat.le_add_right _ 5) (Nat.le_of_lt longer), fun _ => longer⟩
    · cases nested
  · have same := (partText_withoutNulls declarations compares).trans made
    obtain rfl := Except.ok.inj (again.symm.trans same)
    exact ⟨Nat.le_refl _, fun now => absurd now compares⟩

theorem extent_withoutNulls {children : List Filter} {parts others : List String}
    (made : List.Forall₂ (fun child part => partText declarations child = .ok part)
      children parts)
    (again : List.Forall₂ (fun child part => partText declarations child.withoutNulls = .ok part)
      children others) :
    extent others ≤ extent parts ∧
      ((∃ child ∈ children, child.comparesWithNull) → extent others + 5 < extent parts) := by
  induction made generalizing others with
  | nil =>
      cases again
      exact ⟨Nat.le_refl _, fun ⟨_, absent, _⟩ => absurd absent List.not_mem_nil⟩
  | cons here _ ih =>
      cases again with
      | cons now later =>
          obtain ⟨headLe, headLt⟩ := share_withoutNulls here now
          obtain ⟨restLe, restLt⟩ := ih later
          refine ⟨Nat.add_le_add headLe restLe, ?_⟩
          rw [extent, extent]
          rintro ⟨child, present, compares⟩
          rcases List.mem_cons.mp present with same | inRest
          · have := headLt (same ▸ compares)
            omega
          · have := restLt ⟨child, inRest, compares⟩
            omega

theorem length_withoutNulls_lt (compares : node.comparesWithNull) {text short : String}
    (made : nodeText declarations (conjunctionText declarations) node = .ok text)
    (again : nodeText declarations (conjunctionText declarations) node.withoutNulls =
      .ok short) : short.length < text.length := by
  rcases nodeText_of_comparesWithNull compares made with
    ⟨text_ne, lost⟩ | ⟨children, present, joined, without⟩
  · obtain rfl := Except.ok.inj (again.symm.trans lost)
    exact Nat.pos_of_ne_zero fun zero => text_ne (String.length_eq_zero_iff.mp zero)
  · obtain ⟨parts, compiled, ends⟩ := of_bind joined
    obtain ⟨others, compiledAgain, endsAgain⟩ := of_bind (without.symm.trans again)
    obtain rfl := Except.ok.inj ends
    obtain rfl := Except.ok.inj endsAgain
    have smaller := (extent_withoutNulls (forall₂_of_mapM compiled)
      (List.forall₂_map_left_iff.mp (forall₂_of_mapM compiledAgain))).2 present
    rw [length_joined, length_joined]
    omega

theorem condition_withoutNulls_ne {allowFiltering : Bool} (compares : node.comparesWithNull)
    {text : String} (made : condition declarations allowFiltering node = .ok text) :
    condition declarations allowFiltering node.withoutNulls ≠ .ok text := by
  intro same
  obtain ⟨bare, first, ends⟩ := of_bind made
  obtain ⟨short, second, endsAgain⟩ := of_bind same
  have shorter := length_withoutNulls_lt compares first second
  have kept : bare.isEmpty = false := by
    rw [Bool.eq_false_iff]
    intro nothing
    rw [String.isEmpty_iff.mp nothing] at shorter
    exact absurd shorter (Nat.not_lt_zero _)
  have texts := Except.ok.inj (endsAgain.trans ends.symm)
  have lengths := congrArg String.length texts
  rw [kept] at lengths
  cases allowFiltering with
  | false => exact absurd lengths (Nat.ne_of_lt shorter)
  | true =>
      cases gone : short.isEmpty with
      | true =>
          simp [gone] at lengths
          omega
      | false =>
          simp [gone] at lengths
          omega

end Losses

end Cql

namespace Filter

/-- **What the wire does to the meaning of a filter.** A filter with plain values is read back from
what is written, and means the same in both stores if it compares with null nowhere. If it does,
what it is compiled to in a store is not what is read back is compiled to. -/
theorem written_keeps_meaning (filter : Filter) (plain : filter.Plain) (json : Json)
    (written : filter.IsWritten json) :
    ∃ back, ofJson json = .ok back ∧
      (¬filter.comparesWithNull → ∀ declarations,
        (∀ strategy, back.toPredicate declarations strategy =
          filter.toPredicate declarations strategy) ∧
        ∀ allowFiltering, Cql.condition declarations allowFiltering back =
          Cql.condition declarations allowFiltering filter) ∧
      (filter.comparesWithNull → ∀ declarations,
        (∀ strategy predicate, filter.toPredicate declarations strategy = .ok predicate →
          back.toPredicate declarations strategy ≠ .ok predicate) ∧
        ∀ allowFiltering text, Cql.condition declarations allowFiltering filter = .ok text →
          Cql.condition declarations allowFiltering back ≠ .ok text) := by
  refine ⟨filter.withoutNulls, ofJson_of_isWritten plain written, ?_, ?_⟩
  · intro noNull declarations
    exact ⟨fun strategy => toPredicate_withoutNulls noNull,
      fun allowFiltering => Cql.condition_withoutNulls declarations allowFiltering noNull⟩
  · intro compares declarations
    exact ⟨fun strategy predicate => toPredicateWithin_withoutNulls_ne _ compares,
      fun allowFiltering text => Cql.condition_withoutNulls_ne compares⟩

/-- A list, a null value without an operator, and a group with a null value beside children. -/
def listed : Filter :=
  combine .and [list "id" .isIn "1,2", { empty with field := some "name", value := some .null },
    grouped "age" .or [global .lt (.int 10), { combine .not [] with value := some .null }]]

theorem written_keeps_meaning_listed :
    ∃ back, ofJson listed.toJson = .ok back ∧
      back.toPredicate .empty .native = .ok (.and
        [.compare "id" .isIn (.array [.string "1", .string "2"]), .unconstrained,
          .within "age" .or [.global .lt (.int 10), .not (.and [])]]) := by
  have plain : listed.Plain := by
    simp [listed, combine, list, leaf, grouped, global, empty, Plain, PlainList, Value.Plain]
  obtain ⟨back, read, same, _⟩ := written_keeps_meaning listed plain listed.toJson (Or.inl rfl)
  have noNull : ¬listed.comparesWithNull := by decide
  refine ⟨back, read, ?_⟩
  rw [(same noNull .empty).1 .native]
  rfl

/-- A comparison with null is read back as no constraint. -/
theorem written_null_lost :
    ∃ back, ofJson (leaf "deleted" .is .null).toJson = .ok back ∧
      (leaf "deleted" .is .null).toPredicate .empty .delimited =
        .ok (.compare "deleted" .is .null) ∧
      back.toPredicate .empty .delimited = .ok .unconstrained ∧
      Cql.condition .empty false (leaf "deleted" .is .null) = .error (.unsupported .cql .is) ∧
      Cql.condition .empty false back = .ok "" :=
  ⟨(leaf "deleted" .is .null).withoutNulls, rfl, rfl, rfl, rfl, rfl⟩

end Filter

end Keyset
