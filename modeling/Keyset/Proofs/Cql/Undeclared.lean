import Keyset.Proofs.Cql.Literal
import Keyset.Proofs.Cql.Relations

/-! # Texts at fields without declaration

A field without declaration has no type that says whether its literals are quoted, so the value
decides: a string or a timestamp is quoted. Whether the items of a list are quoted is decided by the
list, which is neither, so they are not. The relation of such a field quotes the strings and
timestamps of its value iff they do not stand in a list (`Keyset.Cql.text_undeclared_iff`).
-/

namespace Keyset

/-- A string or a timestamp. -/
def Value.isText : Value → Bool
  | string _ => true
  | timestamp _ => true
  | _ => false

namespace Cql

mutual

/-- The literal of a value with every string and every timestamp between quotes. -/
def quotingTexts : Value → String
  | .null => "NULL"
  | .string s => quote s
  | .timestamp t => quote (Value.timestamp t).rawText
  | .array items => "(" ++ ", ".intercalate (quotingAllTexts items) ++ ")"
  | value => value.rawText

def quotingAllTexts : List Value → List String
  | [] => []
  | item :: rest => quotingTexts item :: quotingAllTexts rest

end

mutual

/-- How many strings and timestamps stand in a value, at any depth. -/
def textCount : Value → Nat
  | .string _ => 1
  | .timestamp _ => 1
  | .array items => textCountOfItems items
  | _ => 0

def textCountOfItems : List Value → Nat
  | [] => 0
  | item :: rest => textCount item + textCountOfItems rest

end

/-! ## What quotes add -/

theorem length_le_length_doubleQuotes (text : List Char) :
    text.length ≤ (doubleQuotes text).length := by
  induction text with
  | nil => exact Nat.le_refl 0
  | cons c rest ih =>
      have here : 1 ≤ (if c = '\'' then ['\'', '\''] else [c]).length := by
        split
        · exact Nat.le_succ 1
        · exact Nat.le_refl 1
      rw [doubleQuotes_cons, List.length_append, List.length_cons, Nat.add_comm]
      exact Nat.add_le_add here ih

theorem length_add_two_le_length_quote (text : String) :
    text.length + 2 ≤ (quote text).length := by
  have kept := length_le_length_doubleQuotes text.toList
  rw [← String.length_toList, ← String.length_toList, Literal.toList_quote, Literal.chars,
    List.length_cons, List.length_append, List.length_singleton]
  exact Nat.add_le_add_right kept 2

mutual

/-- Every text is two quotes longer between them, or more if it has quotes of its own. -/
theorem length_literal_le : ∀ value : Value,
    (literal false value).length + 2 * textCount value ≤ (quotingTexts value).length
  | .null => Nat.le_refl _
  | .bool _ => Nat.le_refl _
  | .int _ => Nat.le_refl _
  | .float _ => Nat.le_refl _
  | .string _ => length_add_two_le_length_quote _
  | .timestamp _ => length_add_two_le_length_quote _
  | .array items => by
    have inner := length_literals_le items
    simp only [literal, textCount, quotingTexts, String.length_append]
    omega

theorem length_literals_le : ∀ items : List Value,
    (", ".intercalate (literals false items)).length + 2 * textCountOfItems items ≤
      (", ".intercalate (quotingAllTexts items)).length
  | [] => Nat.le_refl _
  | [item] => by
    have here := length_literal_le item
    simpa [literals, quotingAllTexts, textCountOfItems] using here
  | item :: next :: rest => by
    have here := length_literal_le item
    have later := length_literals_le (next :: rest)
    simp only [literals, quotingAllTexts, textCountOfItems, String.intercalate_cons_cons,
      String.length_append] at later ⊢
    omega

end

mutual

theorem quotingTexts_of_textCount : ∀ value : Value, textCount value = 0 →
    quotingTexts value = literal false value
  | .null, _ => rfl
  | .bool _, _ => rfl
  | .int _, _ => rfl
  | .float _, _ => rfl
  | .string _, noTexts => absurd noTexts Nat.one_ne_zero
  | .timestamp _, noTexts => absurd noTexts Nat.one_ne_zero
  | .array items, noTexts => by
    rw [quotingTexts, literal, quotingAllTexts_of_textCount items noTexts]

theorem quotingAllTexts_of_textCount : ∀ items : List Value, textCountOfItems items = 0 →
    quotingAllTexts items = literals false items
  | [], _ => rfl
  | item :: rest, noTexts => by
    obtain ⟨here, later⟩ := Nat.add_eq_zero_iff.mp noTexts
    rw [quotingAllTexts, literals, quotingTexts_of_textCount item here,
      quotingAllTexts_of_textCount rest later]

end

/-! ## The relation of a field without declaration -/

section Undeclared

variable {declarations : Declarations} {relation : Relation}

theorem isQuoted_of_undeclared {field : String} (undeclared : declarations.get? field = none)
    (value : Value) : isQuoted declarations field value = value.isText := by
  have untyped : declarations.type? field = none := by
    rw [Declarations.type?, undeclared]
    rfl
  unfold isQuoted
  rw [untyped]
  cases value <;> rfl

theorem text_of_undeclared (undeclared : declarations.get? relation.field = none)
    (compares : comparesTokens relation.op = false) :
    relation.text declarations = relation.field ++ " " ++ relation.op.symbol ++ " " ++
      literal relation.value.isText relation.value := by
  rw [Relation.text, compares, isQuoted_of_undeclared undeclared]
  rfl

theorem literal_isText {value : Value} (single : ∀ items, value ≠ .array items) :
    literal value.isText value = quotingTexts value := by
  cases value with
  | array items => exact absurd rfl (single items)
  | _ => rfl

theorem quotingTexts_ne_literal {value : Value} (texts : textCount value ≠ 0) :
    literal false value ≠ quotingTexts value := by
  intro same
  have longer := length_literal_le value
  rw [same] at longer
  omega

/-- **Which texts are quoted at fields without declaration.** The text of a condition is that of its
relations. A relation of a field without declaration that compares no partition tokens has all
strings and timestamps of its value between quotes iff its value is no list that holds any; of a
list it quotes nothing, however deep it stands. -/
theorem text_undeclared_iff {allowFiltering : Bool} {filter : Filter} {text : String}
    (made : condition declarations allowFiltering filter = .ok text) :
    text = relationsText declarations allowFiltering (relations filter) ∧
      ∀ relation ∈ relations filter, declarations.get? relation.field = none →
        comparesTokens relation.op = false →
          let opening := relation.field ++ " " ++ relation.op.symbol ++ " "
          (relation.text declarations = opening ++ quotingTexts relation.value ↔
            ∀ items, relation.value = .array items → textCount (.array items) = 0) ∧
          ∀ items, relation.value = .array items →
            relation.text declarations = opening ++ literal false (.array items) := by
  refine ⟨(condition_outcome declarations allowFiltering filter).2.1 text made, ?_⟩
  intro relation _ undeclared compares opening
  have written := text_of_undeclared undeclared compares
  have bare : ∀ items, relation.value = .array items →
      relation.text declarations = opening ++ literal false (.array items) := by
    intro items list
    rw [written, list]
    rfl
  refine ⟨⟨fun quoted items list => ?_, fun noTexts => ?_⟩, bare⟩
  · by_cases texts : textCount (.array items) = 0
    · exact texts
    · rw [bare items list, list] at quoted
      exact absurd ((String.append_right_inj _).mp quoted) (quotingTexts_ne_literal texts)
  · by_cases isList : ∃ items, relation.value = .array items
    · obtain ⟨items, list⟩ := isList
      rw [bare items list, list, quotingTexts_of_textCount _ (noTexts items list)]
    · rw [written, literal_isText (not_exists.mp isList)]

/-- A quote in a text is doubled, a list of numbers has nothing to quote, and a list of texts has
none of them quoted. -/
theorem text_undeclared_iff_towns :
    let ranks : List Value := [.int 1, .array [.null]]
    let towns : List Value := [.string "Oslo", .string "Bergen"]
    let filter : Filter := .combine .and [.leaf "city" .eq (.string "O'slo"), .empty,
      .leaf "rank" .isIn (.array ranks), .list "city" .isIn "Oslo,Bergen"]
    relations filter = [⟨"city", .eq, .string "O'slo"⟩, ⟨"rank", .isIn, .array ranks⟩,
        ⟨"city", .isIn, .array towns⟩] ∧
      (∃ text, condition .empty true filter = .ok text) ∧
      (∀ relation ∈ relations filter, FieldMap.get? (.empty : Declarations) relation.field = none ∧
        comparesTokens relation.op = false) ∧
      Relation.text .empty ⟨"city", .eq, .string "O'slo"⟩ = "city = " ++ quote "O'slo" ∧
      Relation.text .empty ⟨"rank", .isIn, .array ranks⟩ =
        "rank IN " ++ quotingTexts (.array ranks) ∧
      Relation.text .empty ⟨"city", .isIn, .array towns⟩ = "city IN (Oslo, Bergen)" ∧
      Relation.text .empty ⟨"city", .isIn, .array towns⟩ ≠
        "city IN " ++ quotingTexts (.array towns) := by
  intro ranks towns filter
  have found : relations filter = [⟨"city", .eq, .string "O'slo"⟩, ⟨"rank", .isIn, .array ranks⟩,
      ⟨"city", .isIn, .array towns⟩] := rfl
  have plain : ∀ relation ∈ relations filter,
      FieldMap.get? (.empty : Declarations) relation.field = none ∧
        comparesTokens relation.op = false := by
    rw [found]
    simp [FieldMap.get?_empty, comparesTokens]
  have listed : IsPart (.list "city" .isIn "Oslo,Bergen") := isPart_list _ _ (by decide)
  have parts : HasCondition filter := by
    refine Or.inr ⟨_, rfl, List.forall_mem_cons.mpr ⟨isPart_leaf _ _ (by decide),
      List.forall_mem_cons.mpr ⟨isPart_empty, List.forall_mem_cons.mpr
        ⟨isPart_leaf _ _ (by decide), List.forall_mem_singleton.mpr listed⟩⟩⟩⟩
  obtain ⟨text, made⟩ := (condition_outcome .empty true filter).1.mpr parts
  obtain ⟨-, each⟩ := text_undeclared_iff made
  have undeclared := fun relation present =>
    each relation present (plain relation present).1 (plain relation present).2
  have first := (undeclared _ (by rw [found]; exact List.mem_cons_self)).1
  have second := (undeclared ⟨"rank", .isIn, .array ranks⟩ (by rw [found]; simp)).1
  have third := undeclared ⟨"city", .isIn, .array towns⟩ (by rw [found]; simp)
  refine ⟨found, ⟨text, made⟩, plain, first.mpr ?_, second.mpr ?_, ?_, ?_⟩
  · rintro items list
    cases list
  · rintro items list
    cases list
    rfl
  · rw [third.2 towns rfl]
    simp [towns, Operator.symbol, literal, literals, Value.rawText]
  · intro quoted
    exact absurd (third.1.mp quoted towns rfl) (by decide)

/-- A list of two towns at a field without declaration, as it is split from its text, comes without
quotes, which is not what a list with quoted texts reads like. -/
theorem text_undeclared_bare :
    let filter : Filter := .list "city" .isIn "Oslo,Bergen"
    let relation : Relation := ⟨"city", .isIn, .array [.string "Oslo", .string "Bergen"]⟩
    relations filter = [relation] ∧
      FieldMap.get? (.empty : Declarations) relation.field = none ∧
      comparesTokens relation.op = false ∧
      condition .empty false filter = .ok "city IN (Oslo, Bergen)" ∧
      "city IN " ++ quotingTexts relation.value = "city IN ('Oslo', 'Bergen')" ∧
      condition .empty false filter ≠ .ok ("city IN " ++ quotingTexts relation.value) := by
  intro filter relation
  have found : relations filter = [relation] := rfl
  have part : HasCondition filter := Or.inl (isPart_list _ _ (by decide))
  have bare : isQuoted .empty relation.field relation.value = false := rfl
  have made : condition .empty false filter = .ok "city IN (Oslo, Bergen)" := by
    rw [condition_of_hasCondition .empty false part, found]
    simp [relationsText, Relation.text, comparesTokens, bare, relation, Operator.symbol, literal,
      literals, Value.rawText]
  have quoted : "city IN " ++ quotingTexts relation.value = "city IN ('Oslo', 'Bergen')" := by
    simp [relation, quotingTexts, quotingAllTexts, quote, doubleQuotes]
  refine ⟨found, rfl, rfl, made, quoted, fun same => ?_⟩
  rw [made, quoted] at same
  exact absurd (Except.ok.inj same) (by decide)

end Undeclared

end Cql

end Keyset
