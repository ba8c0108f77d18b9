import Keyset.Predicate.Basic
import Keyset.Proofs.Value.Wire

/-! # Predicates through JSON

The JSON of a predicate has one member at most, whatever the predicate is: its name is an operator
or a field, and what stands there is a value, a predicate or a list of predicates. A legible
predicate, whose fields cannot be taken for operators and whose lists cannot be taken for values,
is told from its JSON at every depth (`Keyset.Predicate.ofJson?_toJson`). So legible predicates
with the same JSON are the same (`Keyset.Predicate.eq_of_toJson_eq`).
-/

namespace Keyset

/-- The operator that is written by that member name. -/
def Operator.ofKey? (name : String) : Option Operator :=
  all.find? fun op => op.key = name

theorem Operator.ofKey?_key (op : Operator) : ofKey? op.key = some op := by
  cases op <;> rfl

namespace Predicate

/-- The name does not start with the sign that operators start with. -/
def IsFieldName (name : String) : Prop :=
  name.toList.head? ≠ some '$'

theorem IsFieldName.ofKey?_eq_none {name : String} (isField : IsFieldName name) :
    Operator.ofKey? name = none := by
  rw [Operator.ofKey?, List.find?_eq_none]
  rintro op - same
  obtain rfl := of_decide_eq_true same
  apply isField
  rw [Operator.key, String.toList_append]
  rfl

mutual

/-- At every depth, fields are not written as operators are, values are plain and not compared by
the operators that join predicates, and where an operator of a field has no predicates to go across,
it is one that joins them. -/
def Legible : Predicate → Prop
  | unconstrained => True
  | and parts => LegibleAll parts
  | or parts => LegibleAll parts
  | not part => Legible part
  | compare field op value => IsFieldName field ∧ op.isLogical = false ∧ value.Plain
  | global op value => op.isLogical = false ∧ value.Plain
  | within field op parts =>
    IsFieldName field ∧ (parts ≠ [] ∨ op.isLogical = true) ∧ LegibleAll parts

def LegibleAll : List Predicate → Prop
  | [] => True
  | part :: rest => Legible part ∧ LegibleAll rest

end

/-- Whether a tree is a list of predicates, which are written as objects, and not one of values. -/
def isListOfObjects : Json → Bool
  | .array (.object _ :: _) => true
  | _ => false

mutual

/-- The predicate that a JSON tree tells. -/
def ofJson? : Json → Option Predicate
  | .object [] => some unconstrained
  | .object [(name, json)] =>
    match Operator.ofKey? name with
    | none => ofFieldJson? name json
    | some op =>
      if op.isLogical then
        match op with
        | .not => (ofJson? json).map not
        | .or => (listOfJson? json).map or
        | _ => (listOfJson? json).map and
      else (Value.ofJson? json).map (global op)
  | _ => none

/-- The predicate that the JSON tree of a field tells. -/
def ofFieldJson? (field : String) : Json → Option Predicate
  | .object [(name, json)] =>
    (Operator.ofKey? name).bind fun op =>
      if op.isLogical || isListOfObjects json then (listOfJson? json).map (within field op)
      else (Value.ofJson? json).map (compare field op)
  | _ => none

/-- The predicates that a JSON array tells. -/
def listOfJson? : Json → Option (List Predicate)
  | .array items => ofJsons? items
  | _ => none

def ofJsons? : List Json → Option (List Predicate)
  | [] => some []
  | item :: rest => (ofJson? item).bind fun part => (ofJsons? rest).map (part :: ·)

end

theorem not_isListOfObjects_toJson (value : Value) :
    isListOfObjects (value.toJson .digits) = false := by
  cases value with
  | float x =>
      rw [Value.toJson]
      split <;> rfl
  | array items =>
      cases items with
      | nil => rfl
      | cons item rest =>
          cases item with
          | float x =>
              rw [Value.toJson, Value.toJsons, Value.toJson]
              split <;> rfl
          | _ => rfl
  | _ => rfl

theorem isListOfObjects_toJsons {parts : List Predicate} (some : parts ≠ []) :
    isListOfObjects (.array (toJsons parts)) = true := by
  obtain ⟨part, rest, rfl⟩ := List.exists_cons_of_ne_nil some
  cases part <;> rfl

mutual

/-- **The JSON of a legible predicate tells the predicate.** -/
theorem ofJson?_toJson : ∀ predicate : Predicate, predicate.Legible →
    ofJson? predicate.toJson = some predicate
  | unconstrained, _ => rfl
  | and parts, legible => congrArg (Option.map and) (ofJsons?_toJsons parts legible)
  | or parts, legible => congrArg (Option.map or) (ofJsons?_toJsons parts legible)
  | not part, legible => congrArg (Option.map not) (ofJson?_toJson part legible)
  | global op value, legible => by
      obtain ⟨joinsNot, plain⟩ := legible
      simp only [toJson, ofJson?, Operator.ofKey?_key, joinsNot, Bool.false_eq_true, ↓reduceIte,
        Value.ofJson?_toJson .digits value plain, Option.map_some]
  | compare field op value, legible => by
      obtain ⟨isField, joinsNot, plain⟩ := legible
      simp only [toJson, ofJson?, isField.ofKey?_eq_none, ofFieldJson?, Operator.ofKey?_key,
        Option.bind_some, joinsNot, not_isListOfObjects_toJson, Bool.or_self, Bool.false_eq_true,
        ↓reduceIte, Value.ofJson?_toJson .digits value plain, Option.map_some]
  | within field op parts, legible => by
      obtain ⟨isField, joins, legibleParts⟩ := legible
      have isList : (op.isLogical || isListOfObjects (.array (toJsons parts))) = true := by
        rcases joins with some | joins
        · rw [isListOfObjects_toJsons some, Bool.or_true]
        · rw [joins, Bool.true_or]
      simp only [toJson, ofJson?, isField.ofKey?_eq_none, ofFieldJson?, Operator.ofKey?_key,
        Option.bind_some, isList, ↓reduceIte, listOfJson?, ofJsons?_toJsons parts legibleParts,
        Option.map_some]

theorem ofJsons?_toJsons : ∀ parts : List Predicate, LegibleAll parts →
    ofJsons? (toJsons parts) = some parts
  | [], _ => rfl
  | part :: rest, legible => by
      rw [toJsons, ofJsons?, ofJson?_toJson part legible.1, ofJsons?_toJsons rest legible.2]
      rfl

end

mutual

/-- There is one member at most, so the order of members is nothing to a predicate. -/
theorem canonical_toJson : ∀ predicate : Predicate, predicate.toJson.canonical = predicate.toJson
  | unconstrained => rfl
  | and parts => congrArg (fun items => Json.object [(Operator.and.key, .array items)])
      (canonicalItems_toJsons parts)
  | or parts => congrArg (fun items => Json.object [(Operator.or.key, .array items)])
      (canonicalItems_toJsons parts)
  | not part => congrArg (fun json => Json.object [(Operator.not.key, json)])
      (canonical_toJson part)
  | compare field op value =>
      congrArg (fun json => Json.object [(field, .object [(op.key, json)])])
        (value.canonical_toJson .digits)
  | global op value => congrArg (fun json => Json.object [(op.key, json)])
      (value.canonical_toJson .digits)
  | within field op parts =>
      congrArg (fun items => Json.object [(field, .object [(op.key, .array items)])])
        (canonicalItems_toJsons parts)

theorem canonicalItems_toJsons : ∀ parts : List Predicate,
    Json.canonicalItems (toJsons parts) = toJsons parts
  | [] => rfl
  | part :: rest => by
      rw [toJsons, Json.canonicalItems, canonical_toJson part, canonicalItems_toJsons rest]

end

/-- **JSON determines legible predicates.** If the JSON trees of two of them are equal, up to the
order of members, then so are the predicates. -/
theorem eq_of_toJson_eq {first second : Predicate} (legible : first.Legible)
    (alsoLegible : second.Legible) (same : first.toJson.canonical = second.toJson.canonical) :
    first = second := by
  rw [canonical_toJson, canonical_toJson] at same
  have read := ofJson?_toJson first legible
  rw [same, ofJson?_toJson second alsoLegible] at read
  exact (Option.some.inj read).symm

/-- A list of no predicates is written as one of no values is. -/
example : (within "tags" .isIn []).toJson = (compare "tags" .isIn (.array [])).toJson := rfl

/-- A list of values beside a list of predicates, and an empty list of each. -/
theorem eq_of_toJson_eq_lists :
    let first : Predicate := andAll [unconstrained,
      compare "tags" .isIn (.array [.array [], .int 1, .string "$or"]),
      within "and" .isIn [unconstrained, not (global .eq .null)], within "or" .or []]
    let second : Predicate := and [compare "tags" .isIn (.array [.array [], .int 1, .string "$or"]),
      within "and" .isIn [unconstrained, not (global .eq .null)], within "or" .or []]
    first.Legible ∧ second.Legible ∧ first.toJson.canonical = second.toJson.canonical ∧
      first = second := by
  intro first second
  have legible : second.Legible := by
    refine ⟨⟨?_, rfl, trivial, trivial, trivial, trivial⟩, ⟨?_, ?_, trivial, ⟨rfl, trivial⟩,
      trivial⟩, ⟨?_, ?_, trivial⟩, trivial⟩
    · unfold IsFieldName; decide
    · unfold IsFieldName; decide
    · exact Or.inl (List.cons_ne_nil _ _)
    · unfold IsFieldName; decide
    · exact Or.inr rfl
  exact ⟨legible, legible, rfl, eq_of_toJson_eq legible legible rfl⟩

end Predicate

end Keyset
