import Keyset.Order.Parser
import Keyset.Proofs.Cql.Literal
import Keyset.Proofs.Cql.Relations

/-! # Conditions are read in one way

What a relation says is its field, its operator and what its literal says
(`Keyset.Cql.Relation.clause`). If the names of the fields are names and all literals are quoted,
the text of a condition tells what its relations say, one after the other, so that no value can be
read as a part of the condition (`Keyset.Cql.clauses_eq_of_condition`).
-/

namespace Keyset.Cql

/-- What a relation says. -/
@[ext]
structure Clause where
  field : String
  op : Operator
  literal : Literal

/-- What a relation says: that between partition tokens compares the bare text of the value. -/
def Relation.clause (relation : Relation) : Clause where
  field := relation.field
  op := relation.op
  literal :=
    if comparesTokens relation.op then .scalar relation.value.rawText
    else .ofValue relation.value

namespace Clause

/-- The characters of a clause. -/
def chars (clause : Clause) : List Char :=
  if comparesTokens clause.op then
    "token".toList ++ '(' :: (clause.field.toList ++ ')' :: ' ' ::
      (clause.op.symbol.toList ++ ' ' :: ("token(".toList ++ (clause.literal.chars ++ [')']))))
  else
    clause.field.toList ++ ' ' :: (clause.op.symbol.toList ++ ' ' :: clause.literal.chars)

/-- The field is a name, and the operator is one of relations. -/
structure IsSound (clause : Clause) : Prop where
  name : ∀ c ∈ clause.field.toList, Order.isFieldChar c = true
  known : clause.op ∈ relationOperators

end Clause

theorem Relation.toList_text {declarations : Declarations} {relation : Relation}
    (quoted : isQuoted declarations relation.field relation.value = true) :
    (relation.text declarations).toList = relation.clause.chars := by
  rw [Relation.text, Clause.chars, Relation.clause, quoted]
  split
  · simp [tokenRelation, Literal.toList_quote]
  · simp [Literal.toList_literal]

/-! ## Names and operators -/

theorem eq_of_span {inClass : Char → Bool} {first second rest others : List Char} {c d : Char}
    (firstIn : ∀ x ∈ first, inClass x = true) (secondIn : ∀ x ∈ second, inClass x = true)
    (notC : inClass c = false) (notD : inClass d = false)
    (same : first ++ c :: rest = second ++ d :: others) :
    first = second ∧ c = d ∧ rest = others := by
  have taken := congrArg (List.takeWhile inClass) same
  rw [List.takeWhile_append_of_pos firstIn, List.takeWhile_append_of_pos secondIn,
    List.takeWhile_cons_of_neg (by simp [notC]), List.takeWhile_cons_of_neg (by simp [notD]),
    List.append_nil, List.append_nil] at taken
  subst taken
  obtain ⟨marks, ends⟩ := List.cons.inj (List.append_cancel_left same)
  exact ⟨rfl, marks, ends⟩

theorem isFieldChar_blank : Order.isFieldChar ' ' = false := rfl

theorem isFieldChar_open : Order.isFieldChar '(' = false := rfl

theorem isFieldChar_close : Order.isFieldChar ')' = false := rfl

theorem isFieldChar_of_token : ∀ c ∈ "token".toList, Order.isFieldChar c = true :=
  List.all_eq_true.mp rfl

/-- Operators are told by their symbols, of which one goes on with a word where another one ends. -/
theorem op_eq_of_symbol {op other : Operator} {rest others : List Char}
    (known : op ∈ relationOperators) (alsoKnown : other ∈ relationOperators)
    (alike : comparesTokens op = comparesTokens other)
    (noWord : rest.head? ≠ some 'K') (alsoNoWord : others.head? ≠ some 'K')
    (same : op.symbol.toList ++ ' ' :: rest = other.symbol.toList ++ ' ' :: others) :
    op = other ∧ rest = others := by
  simp only [relationOperators, List.mem_cons, List.not_mem_nil, or_false] at known alsoKnown
  rcases known with rfl | rfl | rfl | rfl | rfl | rfl | rfl | rfl | rfl | rfl <;>
    rcases alsoKnown with rfl | rfl | rfl | rfl | rfl | rfl | rfl | rfl | rfl | rfl <;>
    simp [Operator.symbol, comparesTokens] at alike same <;>
    grind

theorem Literal.head_ne_word (literal : Literal) (rest : List Char) :
    (literal.chars ++ rest).head? ≠ some 'K' := by
  obtain ⟨c, more, written, starts⟩ := literal.chars_eq_cons
  rw [written]
  rcases starts with rfl | rfl | rfl <;> simp

namespace Clause

variable {first second : Clause}

theorem IsSound.opens (sound : first.IsSound) (more others : List Char) :
    first.chars ++ more ≠ ')' :: others := by
  rw [chars]
  split
  · simp
  · intro same
    cases written : first.field.toList with
    | nil => simp [written] at same
    | cons c rest =>
        have inName := sound.name c (written ▸ List.mem_cons_self)
        rw [written] at same
        obtain rfl := (List.cons.inj same).1
        rw [isFieldChar_close] at inName
        contradiction

/-- What a clause says is told by its text, whatever follows. -/
theorem IsSound.determined (sound : first.IsSound) (alsoSound : second.IsSound) :
    Tells chars first second := by
  intro rest others follows alsoFollows same
  rw [chars, chars] at same
  split at same <;> split at same <;> simp only [List.append_assoc, List.cons_append] at same
  -- Both compare tokens: the name ends at the bracket, and the literal too.
  next tokens alsoTokens =>
    obtain ⟨-, -, named⟩ := eq_of_span isFieldChar_of_token isFieldChar_of_token
      isFieldChar_open isFieldChar_open same
    obtain ⟨fields, -, after⟩ := eq_of_span sound.name alsoSound.name isFieldChar_close
      isFieldChar_close named
    obtain ⟨ops, valued⟩ := op_eq_of_symbol sound.known alsoSound.known
      (tokens.trans alsoTokens.symm) (by simp) (by simp) (List.cons.inj after).2
    obtain ⟨literals, ends⟩ := Literal.determined _ _ _ _ (follows_cons (by decide) _)
      (follows_cons (by decide) _) (List.append_cancel_left valued)
    exact ⟨Clause.ext (String.toList_inj.mp fields) ops literals, (List.cons.inj ends).2⟩
  -- One compares tokens: `token` would be a field, but a bracket follows it, and not a blank.
  next =>
    obtain ⟨-, marks, -⟩ := eq_of_span isFieldChar_of_token alsoSound.name isFieldChar_open
      isFieldChar_blank same
    exact absurd marks (by decide)
  next =>
    obtain ⟨-, marks, -⟩ := eq_of_span sound.name isFieldChar_of_token isFieldChar_blank
      isFieldChar_open same
    exact absurd marks (by decide)
  next noTokens alsoNoTokens =>
    obtain ⟨fields, -, after⟩ := eq_of_span sound.name alsoSound.name isFieldChar_blank
      isFieldChar_blank same
    obtain ⟨ops, valued⟩ := op_eq_of_symbol sound.known alsoSound.known
      (by rw [Bool.eq_false_iff.mpr noTokens, Bool.eq_false_iff.mpr alsoNoTokens])
      (Literal.head_ne_word _ _) (Literal.head_ne_word _ _) after
    obtain ⟨literals, ends⟩ := Literal.determined _ _ _ _ follows alsoFollows valued
    exact ⟨Clause.ext (String.toList_inj.mp fields) ops literals, ends⟩

end Clause

/-! ## Conditions -/

section Conditions

variable {declarations : Declarations} {allowFiltering : Bool}

/-- The relations of a filter that has a condition have known operators. -/
theorem mem_relationOperators_of_hasCondition {filter : Filter} (has : HasCondition filter) :
    ∀ relation ∈ relations filter, relation.op ∈ relationOperators := by
  have ofPart {node : Filter} (part : IsPart node) {relation : Relation}
      (found : relation? node = some relation) : relation.op ∈ relationOperators := by
    rw [relation?] at found
    rcases part.2 with shaped | ⟨field, op, value, shaped, known⟩
    · rw [shaped] at found
      cases found
    · rw [shaped] at found
      obtain rfl := Option.some.inj found
      exact known
  intro relation present
  rcases has with part | ⟨children, shaped, parts⟩
  · have single : relation? filter = some relation := by
      rcases part.2 with shaped | ⟨field, op, value, shaped, _⟩ <;>
        rw [relations, shaped] at present <;> exact Option.mem_toList.mp present
    exact ofPart part single
  · rw [relations, shaped] at present
    obtain ⟨child, inChildren, found⟩ := List.mem_filterMap.mp present
    exact ofPart (parts child inChildren) found

/-- A field is a name, and it is declared with a type whose literals, or those of whose items, are
quoted. -/
def QuotesField (declarations : Declarations) (field : String) : Prop :=
  (∀ c ∈ field.toList, Order.isFieldChar c = true) ∧
    ∃ type, declarations.type? field = some type ∧ type.quotesElements

theorem isQuoted_of_quotesField {field : String} (quoted : QuotesField declarations field)
    (value : Value) : isQuoted declarations field value = true := by
  obtain ⟨-, type, declared, quotes⟩ := quoted
  unfold isQuoted
  rw [declared]
  exact quotes

theorem toList_intercalate_text {relations : List Relation}
    (quoted : ∀ relation ∈ relations, QuotesField declarations relation.field) :
    (" and ".intercalate (relations.map (Relation.text declarations))).toList =
      " and ".toList.intercalate ((relations.map Relation.clause).map Clause.chars) := by
  rw [String.toList_intercalate, List.map_map, List.map_map]
  refine congrArg _ (List.map_congr_left fun relation present => ?_)
  exact Relation.toList_text (isQuoted_of_quotesField (quoted relation present) relation.value)

theorem clauses_eq_of_intercalate {first second : List Relation}
    (sound : ∀ clause ∈ first.map Relation.clause, clause.IsSound)
    (alsoSound : ∀ clause ∈ second.map Relation.clause, clause.IsSound)
    (same : " and ".toList.intercalate ((first.map Relation.clause).map Clause.chars) =
      " and ".toList.intercalate ((second.map Relation.clause).map Clause.chars)) :
    first.map Relation.clause = second.map Relation.clause := by
  have closed := congrArg (· ++ [')']) same
  refine (eq_of_intercalate ' ' "and ".toList (by decide) (by decide) ?_ ?_ closed).1
  · intro clause present
    rcases List.mem_append.mp present with inFirst | inSecond
    · exact (sound clause inFirst).opens
    · exact (alsoSound clause inSecond).opens
  · exact fun clause inFirst other inSecond =>
      (sound clause inFirst).determined (alsoSound other inSecond)

/-- A full scan is allowed after any text but the empty one, so that it hides no text. -/
theorem eq_of_relationsText {first second : List Relation}
    (same : relationsText declarations allowFiltering first =
      relationsText declarations allowFiltering second) :
    " and ".intercalate (first.map (Relation.text declarations)) =
      " and ".intercalate (second.map (Relation.text declarations)) := by
  -- If only one of the texts is empty, then the other one and the allowance are together too long.
  have lengths := congrArg String.length same
  rw [relationsText, relationsText] at same lengths
  rw [← intercalate_text_isEmpty declarations first,
    ← intercalate_text_isEmpty declarations second] at same lengths
  generalize " and ".intercalate (first.map (Relation.text declarations)) = one at *
  generalize " and ".intercalate (second.map (Relation.text declarations)) = other at *
  cases allowFiltering with
  | false => simpa using same
  | true =>
      have characters : " ALLOW FILTERING".length = 16 := rfl
      cases noOne : one.isEmpty <;> cases noOther : other.isEmpty <;>
        simp only [noOne, noOther] at same lengths
      · simpa using same
      · rw [String.isEmpty_iff.mp noOther] at lengths
        simp [characters] at lengths
      · rw [String.isEmpty_iff.mp noOne] at lengths
        simp [characters] at lengths
      · rw [String.isEmpty_iff.mp noOne, String.isEmpty_iff.mp noOther]

/-- **A condition tells its relations.** Let two filters have the same condition, and let all their
fields be names whose literals are quoted. Then their relations say the same, one by one: they have
the same fields, the same operators and the same literals. -/
theorem clauses_eq_of_condition {first second : Filter} {text : String}
    (made : condition declarations allowFiltering first = .ok text)
    (again : condition declarations allowFiltering second = .ok text)
    (quoted : ∀ relation ∈ relations first ++ relations second,
      QuotesField declarations relation.field) :
    (relations first).map Relation.clause = (relations second).map Relation.clause := by
  obtain ⟨quotedFirst, quotedSecond⟩ := List.forall_mem_append.mp quoted
  have has := hasCondition_of_condition declarations made
  have alsoHas := hasCondition_of_condition declarations again
  have sound {filter : Filter} (has : HasCondition filter)
      (quoted : ∀ relation ∈ relations filter, QuotesField declarations relation.field) :
      ∀ clause ∈ (relations filter).map Relation.clause, clause.IsSound := by
    intro clause present
    obtain ⟨relation, inFilter, rfl⟩ := List.mem_map.mp present
    exact ⟨(quoted relation inFilter).1,
      mem_relationOperators_of_hasCondition has relation inFilter⟩
  have same : relationsText declarations allowFiltering (relations first) =
      relationsText declarations allowFiltering (relations second) := by
    rw [condition_of_hasCondition declarations allowFiltering has] at made
    rw [condition_of_hasCondition declarations allowFiltering alsoHas] at again
    exact (Except.ok.inj made).trans (Except.ok.inj again).symm
  have texts := congrArg String.toList (eq_of_relationsText same)
  rw [toList_intercalate_text quotedFirst, toList_intercalate_text quotedSecond] at texts
  exact clauses_eq_of_intercalate (sound has quotedFirst) (sound alsoHas quotedSecond) texts

end Conditions

/-- A value with quotes that asks for a second relation stays a value: an equal condition has the
same two relations. A number and its text have the same literal. -/
theorem clauses_eq_of_condition_quote :
    let declarations : Declarations := FieldMap.ofList [("name", "String"), ("tags", "[String]")]
    let name : Filter := .leaf "name" .eq (.string "a' and tags = 'b")
    let first : Filter := .combine .and [name, .leaf "tags" .contains (.int 5)]
    let second : Filter := .combine .and [.empty, name, .leaf "tags" .contains (.string "5")]
    condition declarations false first =
        .ok "name = 'a'' and tags = ''b' and tags CONTAINS '5'" ∧
      condition declarations false second = condition declarations false first ∧
      (∀ relation ∈ relations first ++ relations second, QuotesField declarations relation.field) ∧
      (relations first).map Relation.clause = (relations second).map Relation.clause := by
  intro declarations name first second
  have quotesName : QuotesField declarations "name" :=
    ⟨List.all_eq_true.mp rfl, ⟨"String", false⟩, rfl, rfl⟩
  have quotesTags : QuotesField declarations "tags" :=
    ⟨List.all_eq_true.mp rfl, ⟨"String", true⟩, rfl, rfl⟩
  have quoted : ∀ relation ∈ relations first ++ relations second,
      QuotesField declarations relation.field := by
    refine List.forall_mem_cons.mpr ⟨quotesName, List.forall_mem_cons.mpr ⟨quotesTags,
      List.forall_mem_cons.mpr ⟨quotesName, List.forall_mem_singleton.mpr quotesTags⟩⟩⟩
  have has : HasCondition first := by
    refine Or.inr ⟨_, rfl, List.forall_mem_cons.mpr ⟨?_, List.forall_mem_singleton.mpr ?_⟩⟩
    · exact isPart_leaf _ _ (by decide)
    · exact isPart_leaf _ _ (by decide)
  have alsoHas : HasCondition second := by
    refine Or.inr ⟨_, rfl, List.forall_mem_cons.mpr ⟨isPart_empty, List.forall_mem_cons.mpr ⟨?_,
      List.forall_mem_singleton.mpr ?_⟩⟩⟩
    · exact isPart_leaf _ _ (by decide)
    · exact isPart_leaf _ _ (by decide)
  -- The two lists of relations differ in the last value only, and not in its literal.
  have wording (value : Value) (five : literal true value = "'5'") :
      relationsText declarations false
        [⟨"name", .eq, .string "a' and tags = 'b"⟩, ⟨"tags", .contains, value⟩] =
          "name = 'a'' and tags = ''b' and tags CONTAINS '5'" := by
    simp [relationsText, Relation.text, comparesTokens, isQuoted_of_quotesField quotesName,
      isQuoted_of_quotesField quotesTags, literal, quote, doubleQuotes, Operator.symbol,
      Value.rawText, five]
  have made := (condition_of_hasCondition declarations false has).trans
    (congrArg Except.ok (wording (.int 5) rfl))
  have again := (condition_of_hasCondition declarations false alsoHas).trans
    (congrArg Except.ok (wording (.string "5") rfl))
  exact ⟨made, again.trans made.symm, quoted, clauses_eq_of_condition made again quoted⟩

end Keyset.Cql
