import Keyset.AttributeType
import Keyset.Proofs.Text.Run
import Mathlib.Data.List.DropRight

/-! # Types of declarations

The grammar of declarations has the names of types, alone or in brackets: a declaration is one of
it iff it is, blanks apart, the text of a type with such a name
(`Keyset.AttributeType.parse_eq_ok_iff_text`). A declaration may also be read by its brackets alone,
without a look at the name (`Keyset.AttributeType.ofBrackets`), and the type of any declaration is
the one that its brackets give (`Keyset.AttributeType.ofDeclaration_eq`): where the grammar has a
type, it is the same one. The text of a type that was read is read as that type again.
-/

namespace Keyset

namespace AttributeType

open Text (takeWhile_run dropWhile_run)

/-- A name of a type: letters, digits, underscores and exclamation marks, at least one of them. -/
def IsName (name : List Char) : Prop :=
  name ≠ [] ∧ ∀ c ∈ name, isNameChar c

/-- The type of a text without blanks, by the brackets at its ends. -/
def ofBrackets : List Char → AttributeType
  | '[' :: inner => ⟨String.ofList (inner.rdropWhile (· == ']')), true⟩
  | name => ⟨String.ofList name, false⟩

section Reading

variable {name : String} {source rest : List Char} {type : AttributeType}

theorem readName?_eq_some_iff :
    readName? source = some (name, rest) ↔
      IsName name.toList ∧ source = name.toList ++ rest ∧
        ∀ c ∈ rest.head?, isNameChar c = false := by
  constructor
  · intro read
    have parts := List.takeWhile_append_dropWhile (p := isNameChar) (l := source)
    have stops := List.head?_dropWhile_not isNameChar source
    unfold readName? at read
    split at read
    next => cases read
    next some =>
      cases read
      rw [String.toList_ofList]
      refine ⟨⟨some, fun c inside => List.mem_takeWhile_imp inside⟩, parts.symm, ?_⟩
      intro c first
      rw [Option.mem_def.mp first] at stops
      exact stops
  · rintro ⟨⟨some, inside⟩, rfl, stops⟩
    rw [readName?, takeWhile_run inside stops, dropWhile_run inside stops]
    split
    next none => exact absurd none some
    next => rw [String.ofList_toList]

theorem bracket_or_plain (source : List Char) :
    (∃ inner, source = '[' :: inner) ∨ ∀ inner, source ≠ '[' :: inner := by
  rw [← not_exists]
  exact Classical.em _

theorem toList_text_list (name : String) :
    (text ⟨name, true⟩).toList = '[' :: (name.toList ++ [']']) := by
  rw [text, if_pos rfl, String.toList_append, String.toList_append]
  rfl

theorem IsName.ne_bracket {name rest : List Char} (named : IsName name) : name ≠ '[' :: rest := by
  rintro rfl
  exact absurd (named.2 '[' List.mem_cons_self) (by decide)

theorem readPrefix?_bracket {inner : List Char} :
    readPrefix? ('[' :: inner) = some (type, []) ↔
      IsName type.name.toList ∧ '[' :: inner = type.text.toList := by
  obtain ⟨name, isList⟩ := type
  rw [readPrefix?]
  constructor
  · intro read
    split at read
    next found rest inName =>
      cases read
      obtain ⟨named, rfl, -⟩ := readName?_eq_some_iff.mp inName
      exact ⟨named, (toList_text_list name).symm⟩
    next => cases read
  · rintro ⟨named, spelled⟩
    cases isList with
    | false => exact absurd spelled.symm named.ne_bracket
    | true =>
        rw [toList_text_list] at spelled
        have stops : ∀ c ∈ [']'].head?, isNameChar c = false := by
          rintro _ ⟨⟩
          decide
        have closed : readName? inner = some (name, [']']) :=
          readName?_eq_some_iff.mpr ⟨named, (List.cons.inj spelled).2, stops⟩
        rw [closed]
        rfl

theorem readPrefix?_plain (plain : ∀ inner, source ≠ '[' :: inner) :
    readPrefix? source = some (type, []) ↔
      IsName type.name.toList ∧ source = type.text.toList := by
  obtain ⟨name, isList⟩ := type
  unfold readPrefix?
  split
  next inner => exact absurd rfl (plain inner)
  next =>
    rw [Option.map_eq_some_iff]
    constructor
    · rintro ⟨⟨found, rest⟩, read, same⟩
      cases same
      obtain ⟨named, spelled, -⟩ := readName?_eq_some_iff.mp read
      exact ⟨named, spelled.trans (List.append_nil _)⟩
    · rintro ⟨named, spelled⟩
      cases isList with
      | true =>
          exact absurd (spelled.trans (toList_text_list name)) (plain (name.toList ++ [']']))
      | false =>
          have whole : source = name.toList ++ [] := spelled.trans (List.append_nil _).symm
          exact ⟨(name, []), readName?_eq_some_iff.mpr ⟨named, whole, nofun⟩, rfl⟩

/-- A declaration is one of the grammar iff it is, blanks apart, the text of a type with a name. -/
theorem parse_eq_ok_iff_text {declaration : String} :
    parse declaration = .ok type ↔
      IsName type.name.toList ∧ compact declaration = type.text.toList := by
  rw [parse, ParseError.whole_eq_ok_iff]
  rcases bracket_or_plain (compact declaration) with ⟨inner, starts⟩ | plain
  · rw [starts]
    exact readPrefix?_bracket
  · exact readPrefix?_plain plain

end Reading

section Brackets

variable {type : AttributeType} {source : List Char}

theorem ofBrackets_plain (plain : ∀ inner, source ≠ '[' :: inner) :
    ofBrackets source = ⟨String.ofList source, false⟩ := by
  unfold ofBrackets
  split
  next inner => exact absurd rfl (plain inner)
  next => rfl

theorem toList_text_bracket (inner : List Char) :
    (ofBrackets ('[' :: inner)).text.toList = '[' :: (inner.rdropWhile (· == ']') ++ [']']) := by
  rw [ofBrackets, toList_text_list, String.toList_ofList]

theorem toList_text_plain (plain : ∀ inner, source ≠ '[' :: inner) :
    (ofBrackets source).text.toList = source := by
  rw [ofBrackets_plain plain]
  exact String.toList_ofList

/-- In a text of the grammar there are no brackets but those of its type. -/
theorem ofBrackets_text_of_isName (named : IsName type.name.toList) :
    ofBrackets type.text.toList = type := by
  obtain ⟨name, isList⟩ := type
  cases isList with
  | false =>
      change ofBrackets name.toList = _
      rw [ofBrackets_plain fun inner => named.ne_bracket, String.ofList_toList]
  | true =>
      have unclosed : name.toList.rdropWhile (· == ']') = name.toList := by
        rw [List.rdropWhile_eq_self_iff]
        intro some closed
        have last := named.2 _ (List.getLast_mem some)
        rw [beq_iff_eq.mp closed] at last
        exact absurd last (by decide)
      rw [toList_text_list, ofBrackets, List.rdropWhile_concat_pos _ _ _ rfl, unclosed,
        String.ofList_toList]

/-- Every declaration is read by its brackets. -/
theorem ofDeclaration_eq (declaration : String) :
    ofDeclaration declaration = ofBrackets (compact declaration) := by
  rw [ofDeclaration]
  cases read : parse declaration with
  | ok type =>
      obtain ⟨named, spelled⟩ := parse_eq_ok_iff_text.mp read
      rw [spelled, ofBrackets_text_of_isName named]
  | error error => rfl

theorem isList_ofBrackets_iff (source : List Char) :
    (ofBrackets source).isList = true ↔ source.head? = some '[' := by
  rw [List.head?_eq_some_iff]
  rcases bracket_or_plain source with ⟨inner, rfl⟩ | plain
  · exact iff_of_true rfl ⟨inner, rfl⟩
  · rw [ofBrackets_plain plain]
    exact iff_of_false Bool.false_ne_true (not_exists.mpr plain)

/-- Brackets at the end do not count, however many there are. -/
theorem ofBrackets_text (source : List Char) :
    ofBrackets (ofBrackets source).text.toList = ofBrackets source := by
  rcases bracket_or_plain source with ⟨inner, rfl⟩ | plain
  · rw [toList_text_bracket, ofBrackets, List.rdropWhile_concat_pos _ _ _ rfl,
      List.rdropWhile_idempotent, ofBrackets]
  · rw [toList_text_plain plain]

theorem mem_text_ofBrackets {c : Char} (inside : c ∈ (ofBrackets source).text.toList) :
    c ∈ source ∨ c = ']' := by
  rcases bracket_or_plain source with ⟨inner, rfl⟩ | plain
  · rw [toList_text_bracket, ← List.cons_append] at inside
    rcases List.mem_append.mp inside with kept | closing
    · have part := (List.rdropWhile_prefix (· == ']') (l := inner)).subset
      exact Or.inl (List.cons_subset_cons '[' part kept)
    · exact Or.inr (List.mem_singleton.mp closing)
  · rw [toList_text_plain plain] at inside
    exact Or.inl inside

/-- The text of the type of a declaration has no blanks. -/
theorem compact_text_ofDeclaration (declaration : String) :
    compact (ofDeclaration declaration).text = (ofDeclaration declaration).text.toList := by
  refine List.filter_eq_self.mpr fun c inside => ?_
  rw [ofDeclaration_eq] at inside
  rcases mem_text_ofBrackets inside with kept | rfl
  · exact (List.mem_filter.mp kept).2
  · decide

end Brackets

/-- **One type for a declaration.** A declaration is taken for a list iff it starts with a bracket,
blanks apart. A declaration of the grammar is taken for the type that the grammar has for it, and is
the text of it, blanks apart. The text of the type that any declaration is taken for is taken for
that type again. -/
theorem ofDeclaration_stable (declaration : String) :
    ((ofDeclaration declaration).isList = true ↔ (compact declaration).head? = some '[') ∧
      (∀ type, parse declaration = .ok type ↔ ofDeclaration declaration = type ∧
        IsName type.name.toList ∧ compact declaration = type.text.toList) ∧
      ofDeclaration (ofDeclaration declaration).text = ofDeclaration declaration := by
  refine ⟨?_, fun type => ?_, ?_⟩
  · rw [ofDeclaration_eq]
    exact isList_ofBrackets_iff _
  · rw [parse_eq_ok_iff_text, ofDeclaration_eq]
    constructor
    · rintro ⟨named, spelled⟩
      exact ⟨by rw [spelled, ofBrackets_text_of_isName named], named, spelled⟩
    · exact And.right
  · rw [ofDeclaration_eq (ofDeclaration declaration).text, compact_text_ofDeclaration,
      ofDeclaration_eq declaration, ofBrackets_text]

/-- One bracket at the end stands for all that were missing or too many. -/
example : (ofDeclaration " [ [Int!]] ").text = "[[Int!]" ∧ ofDeclaration "[[Int!]" =
    ofDeclaration " [ [Int!]] " := by decide

end AttributeType

end Keyset
