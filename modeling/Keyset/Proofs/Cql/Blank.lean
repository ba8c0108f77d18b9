import Keyset.Proofs.Cql.Literal

/-! # Texts with their literals made empty

What stands outside of quotes in a text is the text with every literal between quotes made empty
(`Keyset.Cql.emptyLiterals`). In a text with an even number of quotes every literal is closed, so
that what follows it stands outside (`Keyset.Cql.emptyLiterals_append`). A literal between quotes
keeps only its brackets, its separators and where there is no value
(`Keyset.Cql.Literal.emptyLiterals_chars`).
-/

namespace Keyset.Cql

mutual

/-- The characters of a text with every literal between quotes made empty. -/
def emptyLiterals : List Char → List Char
  | [] => []
  | '\'' :: rest => '\'' :: skipLiteral rest
  | c :: rest => c :: emptyLiterals rest

/-- What is left of a text that starts within a literal. A quote that is written twice does not
close the literal, and one that is never closed goes on to the end. -/
def skipLiteral : List Char → List Char
  | [] => []
  | '\'' :: '\'' :: rest => skipLiteral rest
  | '\'' :: rest => '\'' :: emptyLiterals rest
  | _ :: rest => skipLiteral rest

end

/-- The number of quotes is even, so that every literal is closed. -/
def IsBalanced (text : List Char) : Prop :=
  text.count '\'' % 2 = 0

instance (text : List Char) : Decidable (IsBalanced text) :=
  inferInstanceAs (Decidable (_ = _))

variable {text front back rest : List Char}

theorem isBalanced_of_not_mem (plain : '\'' ∉ text) : IsBalanced text := by
  rw [IsBalanced, List.count_eq_zero_of_not_mem plain]

theorem IsBalanced.append (first : IsBalanced front) (second : IsBalanced back) :
    IsBalanced (front ++ back) := by
  rw [IsBalanced] at first second ⊢
  rw [List.count_append]
  omega

theorem IsBalanced.intercalate {separator : List Char} (plain : '\'' ∉ separator)
    {pieces : List (List Char)} (each : ∀ piece ∈ pieces, IsBalanced piece) :
    IsBalanced (separator.intercalate pieces) := by
  induction pieces with
  | nil => rfl
  | cons piece rest ih =>
      obtain ⟨here, later⟩ := List.forall_mem_cons.mp each
      cases rest with
      | nil => rwa [List.intercalate_singleton]
      | cons next rest =>
          rw [List.intercalate_cons_cons]
          exact (here.append (isBalanced_of_not_mem plain)).append (ih later)

theorem isBalanced_doubleQuotes (text : List Char) : IsBalanced (doubleQuotes text) := by
  induction text with
  | nil => rfl
  | cons c rest ih =>
      rw [doubleQuotes_cons]
      refine IsBalanced.append ?_ ih
      split
      next => rfl
      next notQuote => exact isBalanced_of_not_mem (by simpa using Ne.symm notQuote)

/-! ## What stands before a text -/

theorem emptyLiterals_cons {c : Char} (notQuote : c ≠ '\'') (rest : List Char) :
    emptyLiterals (c :: rest) = c :: emptyLiterals rest := by
  rw [emptyLiterals]
  exact notQuote

theorem emptyLiterals_plain (plain : '\'' ∉ front) (rest : List Char) :
    emptyLiterals (front ++ rest) = front ++ emptyLiterals rest := by
  induction front with
  | nil => rfl
  | cons c front ih =>
      obtain ⟨notQuote, later⟩ := List.ne_and_not_mem_of_not_mem_cons plain
      rw [List.cons_append, emptyLiterals_cons (Ne.symm notQuote), ih later, List.cons_append]

theorem follows_nil : Follows [] :=
  fun _ => nofun

theorem follows_of_not_mem (plain : '\'' ∉ back) : Follows back := by
  cases back with
  | nil => exact follows_nil
  | cons c rest => exact follows_cons (Ne.symm (List.ne_of_not_mem_cons plain)) rest

theorem skipLiteral_close (follows : Follows rest) :
    skipLiteral ('\'' :: rest) = '\'' :: emptyLiterals rest := by
  rw [skipLiteral]
  exact follows

theorem skipLiteral_cons {c : Char} (notQuote : c ≠ '\'') (rest : List Char) :
    skipLiteral (c :: rest) = skipLiteral rest := by
  rw [skipLiteral]
  · exact fun _ isQuote => absurd isQuote notQuote
  · exact notQuote

mutual

/-- What follows a text whose literals are closed stands outside of quotes. -/
theorem emptyLiterals_append : ∀ {text rest : List Char}, IsBalanced text → Follows rest →
    emptyLiterals (text ++ rest) = emptyLiterals text ++ emptyLiterals rest
  | [], _, _, _ => rfl
  | c :: text, rest, balanced, follows => by
    by_cases isQuote : c = '\''
    · subst isQuote
      have isOpen : text.count '\'' % 2 = 1 := by
        rw [IsBalanced, List.count_cons_self] at balanced
        omega
      rw [List.cons_append, emptyLiterals, emptyLiterals, skipLiteral_append isOpen follows,
        List.cons_append]
    · have balanced : IsBalanced text := by
        rwa [IsBalanced, List.count_cons_of_ne isQuote] at balanced
      rw [List.cons_append, emptyLiterals_cons isQuote, emptyLiterals_cons isQuote,
        emptyLiterals_append balanced follows, List.cons_append]

theorem skipLiteral_append : ∀ {text rest : List Char}, text.count '\'' % 2 = 1 →
    Follows rest → skipLiteral (text ++ rest) = skipLiteral text ++ emptyLiterals rest
  | [], _, isOpen, _ => absurd isOpen (by decide)
  | [c], rest, isOpen, follows => by
    by_cases isQuote : c = '\''
    · subst isQuote
      rw [List.singleton_append, skipLiteral_close follows, skipLiteral_close follows_nil]
      rfl
    · rw [List.count_cons_of_ne isQuote] at isOpen
      exact absurd isOpen (by decide)
  | c :: d :: text, rest, isOpen, follows => by
    by_cases isQuote : c = '\''
    · subst isQuote
      rw [List.count_cons_self] at isOpen
      by_cases twice : d = '\''
      · subst twice
        rw [List.count_cons_self] at isOpen
        rw [List.cons_append, List.cons_append, skipLiteral, skipLiteral,
          skipLiteral_append (by omega) follows]
      · have balanced : IsBalanced (d :: text) := by
          rw [IsBalanced]
          omega
        rw [List.cons_append, skipLiteral_close (follows_cons twice text), List.cons_append,
          skipLiteral_close (follows_cons twice (text ++ rest)), ← List.cons_append,
          emptyLiterals_append balanced follows, List.cons_append]
    · rw [List.count_cons_of_ne isQuote] at isOpen
      rw [List.cons_append, skipLiteral_cons isQuote, skipLiteral_cons isQuote,
        skipLiteral_append isOpen follows]

end

theorem emptyLiterals_append_plain (balanced : IsBalanced text) (plain : '\'' ∉ back) :
    emptyLiterals (text ++ back) = emptyLiterals text ++ back := by
  have unchanged := emptyLiterals_plain plain []
  rw [List.append_nil, emptyLiterals, List.append_nil] at unchanged
  rw [emptyLiterals_append balanced (follows_of_not_mem plain), unchanged]

/-- Pieces whose literals are closed are made empty one by one. -/
theorem emptyLiterals_intercalate {mark : Char} {gap : List Char}
    (plain : '\'' ∉ mark :: gap) {pieces : List (List Char)}
    (each : ∀ piece ∈ pieces, IsBalanced piece) :
    emptyLiterals ((mark :: gap).intercalate pieces) =
      (mark :: gap).intercalate (pieces.map emptyLiterals) := by
  have notQuote : mark ≠ '\'' := Ne.symm (List.ne_of_not_mem_cons plain)
  induction pieces with
  | nil => rfl
  | cons piece rest ih =>
      obtain ⟨here, later⟩ := List.forall_mem_cons.mp each
      cases rest with
      | nil => rw [List.map_singleton, List.intercalate_singleton, List.intercalate_singleton]
      | cons next rest =>
          have follows (tail : List Char) : Follows (mark :: gap ++ tail) :=
            follows_cons notQuote (gap ++ tail)
          rw [List.map_cons, List.map_cons, List.intercalate_cons_cons,
            List.intercalate_cons_cons, List.append_assoc, emptyLiterals_append here (follows _),
            emptyLiterals_plain plain, ih later, List.map_cons, List.append_assoc]

theorem emptyLiterals_bracketed (balanced : IsBalanced text) :
    emptyLiterals ('(' :: (text ++ [')'])) = '(' :: (emptyLiterals text ++ [')']) := by
  rw [emptyLiterals_cons (by decide), emptyLiterals_append_plain balanced (by decide)]

/-- A text between quotes is skipped as a whole. -/
theorem skipLiteral_doubleQuotes (text : List Char) :
    skipLiteral (doubleQuotes text ++ ['\'']) = ['\''] := by
  induction text with
  | nil => rfl
  | cons c rest ih =>
      rw [doubleQuotes_cons]
      split
      next => exact ih
      next notQuote =>
        rw [List.append_assoc, List.singleton_append, skipLiteral_cons notQuote, ih]

/-! ## Literals -/

namespace Literal

mutual

/-- The literal with all its texts made empty. -/
def emptied : Literal → Literal
  | null => null
  | scalar _ => scalar ""
  | list items => list (emptiedItems items)

def emptiedItems : List Literal → List Literal
  | [] => []
  | item :: rest => emptied item :: emptiedItems rest

end

theorem isBalanced_scalar (text : String) : IsBalanced (scalar text).chars := by
  have inner := isBalanced_doubleQuotes text.toList
  rw [IsBalanced] at inner ⊢
  rw [chars, List.count_cons_self, List.count_append, List.count_singleton_self]
  omega

mutual

theorem isBalanced_chars : ∀ literal : Literal, IsBalanced literal.chars
  | null => rfl
  | scalar text => isBalanced_scalar text
  | list items => by
    rw [chars]
    exact (isBalanced_of_not_mem (by decide : '\'' ∉ ['('])).append
      ((IsBalanced.intercalate (by decide) (isBalanced_charsOfItems items)).append
        (isBalanced_of_not_mem (by decide)))

theorem isBalanced_charsOfItems : ∀ items : List Literal,
    ∀ piece ∈ charsOfItems items, IsBalanced piece
  | [] => List.forall_mem_nil _
  | item :: rest => by
    rw [charsOfItems]
    exact List.forall_mem_cons.mpr ⟨isBalanced_chars item, isBalanced_charsOfItems rest⟩

end

mutual

theorem emptyLiterals_chars : ∀ literal : Literal,
    emptyLiterals literal.chars = literal.emptied.chars
  | null => rfl
  | scalar text => by
    rw [chars, emptyLiterals, skipLiteral_doubleQuotes]
    rfl
  | list items => by
    have pieces := isBalanced_charsOfItems items
    have balanced := IsBalanced.intercalate (by decide : '\'' ∉ ", ".toList) pieces
    rw [chars, emptyLiterals_bracketed balanced, emptied, chars, ← map_emptyLiterals_charsOfItems]
    rw [show ", ".toList = [',', ' '] from rfl, emptyLiterals_intercalate (by decide) pieces]

theorem map_emptyLiterals_charsOfItems : ∀ items : List Literal,
    (charsOfItems items).map emptyLiterals = charsOfItems (emptiedItems items)
  | [] => rfl
  | item :: rest => by
    rw [charsOfItems, emptiedItems, charsOfItems, List.map_cons, emptyLiterals_chars item,
      map_emptyLiterals_charsOfItems rest]

end

end Literal

end Keyset.Cql
