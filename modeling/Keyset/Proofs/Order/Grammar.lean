import Keyset.Order.Parser

/-! # The grammar of orders

An order is written as levels with commas between them, and a level as a field that has its
direction before it, after it or not at all (`Keyset.Order.Spelling`). A reading of a text says how
each level and each comma is written (`Keyset.Order.Reading`); what it says of the order is
`Keyset.Order.Reading.order`. Nothing here refers to how texts are read.
-/

namespace Keyset.Order

open Text (isGap)

/-- A name of a field: letters, digits, underscores and points, at least one of them. -/
def IsName (name : List Char) : Prop :=
  name ≠ [] ∧ ∀ c ∈ name, isFieldChar c

/-- What stands between a field and its direction. -/
inductive IsMark : List Char → Prop
  | bar (before after : List Char) (gapsBefore : ∀ c ∈ before, isGap c)
      (gapsAfter : ∀ c ∈ after, isGap c) : IsMark (before ++ '|' :: after)
  | spacing (blanks : List Char) (some : blanks ≠ []) (spaces : ∀ c ∈ blanks, isSpacing c) :
      IsMark blanks

/-- What stands between two levels. -/
inductive IsComma : List Char → Prop
  | around (before after : List Char) (gapsBefore : ∀ c ∈ before, isGap c)
      (gapsAfter : ∀ c ∈ after, isGap c) : IsComma (before ++ ',' :: after)

/-- How a level is written. -/
inductive Spelling
  /-- A field after `^`. -/
  | rising (field : List Char)
  /-- A field after `^!`. -/
  | falling (field : List Char)
  /-- A field alone. -/
  | bare (field : List Char)
  /-- A field with its direction after a mark. -/
  | directed (field mark : List Char) (direction : Direction)

namespace Spelling

/-- The characters of a level. -/
def chars : Spelling → List Char
  | rising field => '^' :: field
  | falling field => '^' :: '!' :: field
  | bare field => field
  | directed field mark direction => field ++ (mark ++ direction.name.toList)

/-- The level that is written. Without a direction it is ascending. -/
def level : Spelling → OrderEntry
  | rising field => ⟨String.ofList field, .asc⟩
  | falling field => ⟨String.ofList field, .desc⟩
  | bare field => ⟨String.ofList field, .asc⟩
  | directed field _ direction => ⟨String.ofList field, direction⟩

/-- The field is a name, and the mark is one. -/
def IsSound : Spelling → Prop
  | rising field => IsName field
  | falling field => IsName field
  | bare field => IsName field
  | directed field mark _ => IsName field ∧ IsMark mark

end Spelling

/-- How a text of an order is put together: the first level, and each further one with what stands
before it. -/
structure Reading where
  first : Spelling
  further : List (List Char × Spelling)

namespace Reading

/-- The characters of further levels. -/
def furtherChars (further : List (List Char × Spelling)) : List Char :=
  further.flatMap fun next => next.1 ++ next.2.chars

/-- The characters of a text. -/
def chars (reading : Reading) : List Char :=
  reading.first.chars ++ furtherChars reading.further

/-- The order that is written. -/
def order (reading : Reading) : Order :=
  reading.first.level :: reading.further.map fun next => next.2.level

/-- Further levels are written after commas. -/
def FurtherSound (further : List (List Char × Spelling)) : Prop :=
  ∀ next ∈ further, IsComma next.1 ∧ next.2.IsSound

/-- The text is one of the grammar. -/
structure IsSound (reading : Reading) : Prop where
  first : reading.first.IsSound
  further : FurtherSound reading.further

theorem furtherChars_cons (comma : List Char) (spelling : Spelling)
    (further : List (List Char × Spelling)) :
    furtherChars ((comma, spelling) :: further) =
      comma ++ (spelling.chars ++ furtherChars further) := by
  rw [furtherChars, List.flatMap_cons, List.append_assoc]
  rfl

end Reading

/-! ## Where the parts of a text start and end -/

theorem not_isFieldChar_of_isBlank {c : Char} (blank : Text.isBlank c) :
    isFieldChar c = false := by
  have blanks : ∀ code ∈ List.range' 0x09 5 ++ List.range' 0x2000 11 ++ [0x20, 0x85, 0xA0, 0x1680,
      0x2028, 0x2029, 0x202F, 0x205F, 0x3000], isFieldChar (Char.ofNat code) = false := by
    decide +kernel
  rw [← Char.ofNat_toNat c]
  apply blanks
  simp only [Text.isBlank, Bool.or_eq_true, Bool.and_eq_true, decide_eq_true_eq, beq_iff_eq]
    at blank
  simp only [List.mem_append, List.mem_range'_1, List.mem_cons, List.not_mem_nil, or_false]
  omega

theorem not_isFieldChar_of_isGap {c : Char} (gap : isGap c) : isFieldChar c = false :=
  not_isFieldChar_of_isBlank (Text.isBlank_of_isGap gap)

theorem isGap_of_isSpacing {c : Char} (space : isSpacing c) : isGap c := by
  simp only [isSpacing, Bool.or_eq_true, beq_iff_eq] at space
  rcases space with rfl | rfl <;> rfl

theorem IsName.exists_cons {name : List Char} (named : IsName name) :
    ∃ c rest, name = c :: rest ∧ isFieldChar c := by
  obtain ⟨some, inside⟩ := named
  obtain ⟨c, rest, rfl⟩ := List.exists_cons_of_ne_nil some
  exact ⟨c, rest, rfl, inside c List.mem_cons_self⟩

end Keyset.Order
