import Keyset.Proofs.Cql.Blank
import Keyset.Proofs.Cql.Clause
import Keyset.Proofs.Cql.Rewording

/-! # Texts stay within their quotes

The literal of a relation between partition tokens is quoted, and that of another one if the type of
its field, or its value, asks for quotes (`Keyset.Cql.Relation.quotes`). Two filters that differ
only in texts of quoted literals have conditions that are the same outside of quotes, provided that
no other literal leaves a quote open (`Keyset.Cql.emptyLiterals_condition`). Where the declared type
asks for no quotes, a text stands bare (`Keyset.Cql.emptyLiterals_condition_bare`).
-/

namespace Keyset.Cql

/-! ## Literals without their texts -/

mutual

theorem emptied_ofValue : ∀ value : Value,
    (Literal.ofValue value.withoutTexts).emptied = (Literal.ofValue value).emptied
  | .null => rfl
  | .bool _ => rfl
  | .int _ => rfl
  | .float _ => rfl
  | .string _ => rfl
  | .timestamp _ => rfl
  | .array items => congrArg Literal.list (emptiedItems_ofValues items)

theorem emptiedItems_ofValues : ∀ items : List Value,
    Literal.emptiedItems (Literal.ofValues (Value.itemsWithoutTexts items)) =
      Literal.emptiedItems (Literal.ofValues items)
  | [] => rfl
  | item :: rest => congrArg₂ List.cons (emptied_ofValue item) (emptiedItems_ofValues rest)

end

theorem isQuoted_withoutTexts (declarations : Declarations) (field : String) (value : Value) :
    isQuoted declarations field value.withoutTexts = isQuoted declarations field value := by
  unfold isQuoted
  cases declarations.type? field with
  | some type => rfl
  | none => cases value <;> rfl

/-! ## Relations -/

namespace Relation

/-- Whether the literal of a relation is quoted. -/
def quotes (declarations : Declarations) (relation : Relation) : Bool :=
  comparesTokens relation.op || isQuoted declarations relation.field relation.value

/-- What a relation has before its literal. -/
def opening (relation : Relation) : String :=
  if comparesTokens relation.op then
    "token(" ++ relation.field ++ ") " ++ relation.op.symbol ++ " token("
  else relation.field ++ " " ++ relation.op.symbol ++ " "

/-- The literal of a relation. -/
def literalText (declarations : Declarations) (relation : Relation) : String :=
  if comparesTokens relation.op then quote relation.value.rawText
  else literal (isQuoted declarations relation.field relation.value) relation.value

/-- What a relation has behind its literal. -/
def closing (relation : Relation) : String :=
  if comparesTokens relation.op then ")" else ""

/-- The name of the field has no quote, and neither does the literal leave one open. -/
structure IsClosed (declarations : Declarations) (relation : Relation) : Prop where
  name : '\'' ∉ relation.field.toList
  literal : relation.quotes declarations = true ∨
    IsBalanced (Cql.literal false relation.value).toList

variable {declarations : Declarations} {relation : Relation}

theorem text_eq (declarations : Declarations) (relation : Relation) :
    relation.text declarations =
      relation.opening ++ relation.literalText declarations ++ relation.closing := by
  rw [text, opening, literalText, closing]
  split
  · simp [tokenRelation, String.append_assoc]
  · rw [String.append_empty]

theorem toList_literalText (quoted : relation.quotes declarations = true) :
    (relation.literalText declarations).toList = relation.clause.literal.chars := by
  rw [literalText, clause]
  rw [quotes] at quoted
  split
  next => exact Literal.toList_quote _
  next noTokens =>
    rw [Bool.eq_false_iff.mpr noTokens, Bool.false_or] at quoted
    rw [quoted]
    exact Literal.toList_literal _

theorem literalText_of_not_quotes (bare : relation.quotes declarations = false) :
    relation.literalText declarations = literal false relation.value := by
  rw [quotes, Bool.or_eq_false_iff] at bare
  rw [literalText, bare.1, bare.2]
  rfl

theorem IsClosed.isBalanced_literalText (closed : relation.IsClosed declarations) :
    IsBalanced (relation.literalText declarations).toList := by
  by_cases quoted : relation.quotes declarations = true
  · rw [toList_literalText quoted]
    exact Literal.isBalanced_chars _
  · rw [literalText_of_not_quotes (Bool.eq_false_iff.mpr quoted)]
    exact closed.literal.resolve_left quoted

theorem not_mem_symbol (op : Operator) : '\'' ∉ op.symbol.toList := by
  cases op <;> decide

theorem IsClosed.not_mem_opening (closed : relation.IsClosed declarations) :
    '\'' ∉ relation.opening.toList := by
  have plain := not_mem_symbol relation.op
  have name := closed.name
  rw [Relation.opening]
  split <;> simp [plain, name]

theorem not_mem_closing (relation : Relation) : '\'' ∉ relation.closing.toList := by
  rw [closing]
  split <;> decide

theorem IsClosed.isBalanced_text (closed : relation.IsClosed declarations) :
    IsBalanced (relation.text declarations).toList := by
  rw [text_eq, String.toList_append, String.toList_append]
  exact ((isBalanced_of_not_mem closed.not_mem_opening).append closed.isBalanced_literalText).append
    (isBalanced_of_not_mem relation.not_mem_closing)

/-- Only the literal of a relation has anything between quotes. -/
theorem IsClosed.emptyLiterals_text (closed : relation.IsClosed declarations) :
    emptyLiterals (relation.text declarations).toList =
      relation.opening.toList ++ emptyLiterals (relation.literalText declarations).toList ++
        relation.closing.toList := by
  rw [text_eq, String.toList_append, String.toList_append, List.append_assoc,
    emptyLiterals_plain closed.not_mem_opening,
    emptyLiterals_append_plain closed.isBalanced_literalText relation.not_mem_closing,
    List.append_assoc]

/-! ## Relations without their texts -/

variable {selects : Relation → Bool}

theorem quotes_withoutTexts (selects : Relation → Bool) (declarations : Declarations)
    (relation : Relation) :
    (relation.withoutTexts selects).quotes declarations = relation.quotes declarations := by
  rw [withoutTexts]
  split
  · rw [quotes, quotes, isQuoted_withoutTexts]
  · rfl

theorem isClosed_withoutTexts_iff
    (quoted : selects relation = true → relation.quotes declarations = true) :
    (relation.withoutTexts selects).IsClosed declarations ↔ relation.IsClosed declarations := by
  by_cases selected : selects relation = true
  · have field : (relation.withoutTexts selects).field = relation.field := by
      rw [withoutTexts, if_pos selected]
    have still := (quotes_withoutTexts selects declarations relation).trans (quoted selected)
    exact ⟨fun closed => ⟨field ▸ closed.name, Or.inl (quoted selected)⟩,
      fun closed => ⟨field ▸ closed.name, Or.inl still⟩⟩
  · rw [withoutTexts, if_neg selected]

theorem emptied_literal_withoutTexts (selects : Relation → Bool) (relation : Relation) :
    (relation.withoutTexts selects).clause.literal.emptied = relation.clause.literal.emptied := by
  rw [withoutTexts]
  split
  · rw [clause, clause]
    dsimp only
    split
    · rfl
    · exact emptied_ofValue relation.value
  · rfl

/-- Outside of quotes, a relation is the same without the texts that are quoted. -/
theorem IsClosed.emptyLiterals_withoutTexts (closed : relation.IsClosed declarations)
    (quoted : selects relation = true → relation.quotes declarations = true) :
    emptyLiterals ((relation.withoutTexts selects).text declarations).toList =
      emptyLiterals (relation.text declarations).toList := by
  by_cases selected : selects relation = true
  · have left := ((isClosed_withoutTexts_iff quoted).mpr closed).emptyLiterals_text
    have still := (quotes_withoutTexts selects declarations relation).trans (quoted selected)
    rw [toList_literalText still, Literal.emptyLiterals_chars, emptied_literal_withoutTexts,
      ← Literal.emptyLiterals_chars, ← toList_literalText (quoted selected)] at left
    rw [left, closed.emptyLiterals_text, withoutTexts, if_pos selected]
    rfl
  · rw [withoutTexts, if_neg selected]

end Relation

/-! ## Conditions -/

section Conditions

variable {declarations : Declarations} {selects : Relation → Bool} {allowFiltering : Bool}

theorem emptyLiterals_relationsText {relations : List Relation}
    (closed : ∀ relation ∈ relations, relation.IsClosed declarations) :
    emptyLiterals (relationsText declarations allowFiltering relations).toList =
      " and ".toList.intercalate (relations.map fun relation =>
          emptyLiterals (relation.text declarations).toList) ++
        (if allowFiltering && !relations.isEmpty then " ALLOW FILTERING" else "").toList := by
  have pieces : ∀ piece ∈ relations.map fun relation => (relation.text declarations).toList,
      IsBalanced piece :=
    List.forall_mem_map.mpr fun relation present => (closed relation present).isBalanced_text
  have balanced := IsBalanced.intercalate (by decide : '\'' ∉ " and ".toList) pieces
  have joined : (" and ".intercalate (relations.map (Relation.text declarations))).toList =
      " and ".toList.intercalate (relations.map fun relation =>
        (relation.text declarations).toList) := by
    rw [String.toList_intercalate, List.map_map]
    rfl
  have emptied : emptyLiterals (" and ".toList.intercalate (relations.map fun relation =>
        (relation.text declarations).toList)) =
      " and ".toList.intercalate (relations.map fun relation =>
        emptyLiterals (relation.text declarations).toList) := by
    rw [show " and ".toList = ' ' :: "and ".toList from rfl,
      emptyLiterals_intercalate (by decide) pieces, List.map_map]
    rfl
  have plain : '\'' ∉
      (if allowFiltering && !relations.isEmpty then " ALLOW FILTERING" else "").toList := by
    split <;> decide
  rw [relationsText, String.toList_append, joined, emptyLiterals_append_plain balanced plain,
    emptied]

theorem emptyLiterals_relationsText_withoutTexts {relations : List Relation}
    (closed : ∀ relation ∈ relations, relation.IsClosed declarations)
    (quoted : ∀ relation ∈ relations, selects relation = true →
      relation.quotes declarations = true) :
    emptyLiterals (relationsText declarations allowFiltering
        (relations.map (Relation.withoutTexts selects))).toList =
      emptyLiterals (relationsText declarations allowFiltering relations).toList := by
  have stillClosed : ∀ relation ∈ relations.map (Relation.withoutTexts selects),
      relation.IsClosed declarations :=
    List.forall_mem_map.mpr fun relation present =>
      (Relation.isClosed_withoutTexts_iff (quoted relation present)).mpr (closed relation present)
  rw [emptyLiterals_relationsText closed, emptyLiterals_relationsText stillClosed, List.map_map,
    List.isEmpty_map]
  refine congrArg (fun texts => " and ".toList.intercalate texts ++ _) ?_
  exact List.map_congr_left fun relation present =>
    (closed relation present).emptyLiterals_withoutTexts (quoted relation present)

/-- **Quoted texts stay within their quotes.** Let two filters differ only in the texts of some
leaves, the literals of which are quoted, and let no other literal leave a quote open. If one of
them has a condition, then so has the other one, and the two conditions are the same once every
literal between quotes is made empty. -/
theorem emptyLiterals_condition {first second : Filter} {text : String}
    (same : withoutTexts selects first = withoutTexts selects second)
    (quoted : ∀ relation ∈ relations first ++ relations second, selects relation = true →
      relation.quotes declarations = true)
    (closed : ∀ relation ∈ relations first, relation.IsClosed declarations)
    (made : condition declarations allowFiltering first = .ok text) :
    ∃ other, condition declarations allowFiltering second = .ok other ∧
      emptyLiterals other.toList = emptyLiterals text.toList := by
  obtain ⟨quotedFirst, quotedSecond⟩ := List.forall_mem_append.mp quoted
  have has := hasCondition_of_condition declarations made
  have alsoHas : HasCondition second := by
    rwa [← hasCondition_withoutTexts_iff selects, ← same, hasCondition_withoutTexts_iff]
  have alike : (relations first).map (Relation.withoutTexts selects) =
      (relations second).map (Relation.withoutTexts selects) := by
    rw [← relations_withoutTexts, ← relations_withoutTexts, same]
  have alsoClosed : ∀ relation ∈ relations second, relation.IsClosed declarations := by
    intro relation present
    have shared := List.mem_map_of_mem (f := Relation.withoutTexts selects) present
    rw [← alike] at shared
    obtain ⟨counterpart, inFirst, equal⟩ := List.mem_map.mp shared
    rw [← Relation.isClosed_withoutTexts_iff (quotedSecond relation present), ← equal,
      Relation.isClosed_withoutTexts_iff (quotedFirst counterpart inFirst)]
    exact closed counterpart inFirst
  rw [condition_of_hasCondition declarations allowFiltering has] at made
  obtain rfl := Except.ok.inj made
  refine ⟨_, condition_of_hasCondition declarations allowFiltering alsoHas, ?_⟩
  rw [← emptyLiterals_relationsText_withoutTexts closed quotedFirst, alike,
    emptyLiterals_relationsText_withoutTexts alsoClosed quotedSecond]

end Conditions

/-- Whether the field of a relation is declared. -/
def Relation.isDeclared (declarations : Declarations) (relation : Relation) : Bool :=
  (declarations.get? relation.field).isSome

/-- Texts with quotes and what looks like a relation stay within their quotes, beside a number. -/
theorem emptyLiterals_condition_quote :
    let declarations : Declarations := FieldMap.ofList [("name", "String"), ("tags", "[String]")]
    let filter (name tags : String) : Filter := .combine .and
      [.leaf "name" .eq (.string name), .list "tags" .isIn tags, .leaf "age" .gt (.int 10)]
    let first := filter "Bob" "a,b"
    let second := filter "x' or name = 'y" "c') or (d,"
    withoutTexts (Relation.isDeclared declarations) first =
        withoutTexts (Relation.isDeclared declarations) second ∧
      condition declarations false first =
        .ok "name = 'Bob' and tags IN ('a', 'b') and age > 10" ∧
      ∃ other, condition declarations false second = .ok other ∧
        emptyLiterals other.toList = "name = '' and tags IN ('', '') and age > 10".toList := by
  intro declarations filter first second
  have same : withoutTexts (Relation.isDeclared declarations) first =
      withoutTexts (Relation.isDeclared declarations) second := rfl
  have quoted : ∀ relation ∈ relations first ++ relations second,
      relation.isDeclared declarations = true → relation.quotes declarations = true := by
    decide
  have closed : ∀ relation ∈ relations first, relation.IsClosed declarations := by
    refine List.forall_mem_cons.mpr ⟨⟨by decide, Or.inl rfl⟩, List.forall_mem_cons.mpr
      ⟨⟨by decide, Or.inl rfl⟩, List.forall_mem_singleton.mpr ⟨by decide, Or.inr (by decide)⟩⟩⟩
  have made : condition declarations false first =
      .ok "name = 'Bob' and tags IN ('a', 'b') and age > 10" := rfl
  obtain ⟨other, alsoMade, outside⟩ := emptyLiterals_condition same quoted closed made
  exact ⟨same, made, other, alsoMade, outside.trans (by decide)⟩

/-- A text stands bare where the declared type asks for no quotes. So it may be read as a part of
the condition, and a quote in it makes the next literal stand outside of the quotes. -/
theorem emptyLiterals_condition_bare :
    let declarations : Declarations := FieldMap.ofList [("name", "String"), ("age", "Int")]
    let age (text : String) : Filter := .leaf "age" .eq (.string text)
    let pair (name : String) : Filter := .combine .and [age "5'", .leaf "name" .eq (.string name)]
    declarations.validate = .ok () ∧
      (withoutTexts (Relation.isDeclared declarations) (age "7") =
          withoutTexts (Relation.isDeclared declarations) (age "7 or 1 = 1") ∧
        condition declarations false (age "7") = .ok "age = 7" ∧
        condition declarations false (age "7 or 1 = 1") = .ok "age = 7 or 1 = 1" ∧
        emptyLiterals "age = 7".toList ≠ emptyLiterals "age = 7 or 1 = 1".toList) ∧
      withoutTexts (Relation.quotes declarations) (pair "Bob") =
          withoutTexts (Relation.quotes declarations) (pair "x or 1 = 1") ∧
        condition declarations false (pair "Bob") = .ok "age = 5' and name = 'Bob'" ∧
        condition declarations false (pair "x or 1 = 1") =
          .ok "age = 5' and name = 'x or 1 = 1'" ∧
        emptyLiterals "age = 5' and name = 'Bob'".toList ≠
          emptyLiterals "age = 5' and name = 'x or 1 = 1'".toList := by
  intro declarations age pair
  exact ⟨rfl, ⟨rfl, rfl, rfl, by decide⟩, rfl, rfl, rfl, by decide⟩

end Keyset.Cql
