import Keyset.Cql

/-! # Quoted literals show where they end

The literal of a value between quotes says that there is no value, or a text, or what the items of a
list say (`Keyset.Cql.Literal`). A quote inside a text is written twice, so no text closes its
literal early: whatever follows two literals, if they are written alike then they say the same, and
what follows is the same (`Keyset.Cql.Literal.determined`).
-/

namespace Keyset.Cql

/-- What a literal between quotes says. -/
inductive Literal
  | null
  | scalar (text : String)
  | list (items : List Literal)

namespace Literal

mutual

/-- What the literal of a value says. -/
def ofValue : Value → Literal
  | .null => null
  | .array items => list (ofValues items)
  | value => scalar value.rawText

def ofValues : List Value → List Literal
  | [] => []
  | item :: rest => ofValue item :: ofValues rest

end

mutual

/-- The characters of a literal. -/
def chars : Literal → List Char
  | null => "NULL".toList
  | scalar text => '\'' :: (doubleQuotes text.toList ++ ['\''])
  | list items => '(' :: (", ".toList.intercalate (charsOfItems items) ++ [')'])

def charsOfItems : List Literal → List (List Char)
  | [] => []
  | item :: rest => chars item :: charsOfItems rest

end

theorem charsOfItems_eq_map (items : List Literal) : charsOfItems items = items.map chars := by
  induction items with
  | nil => rfl
  | cons item rest ih => rw [charsOfItems, List.map_cons, ih]

theorem toList_quote (text : String) : (quote text).toList = (scalar text).chars := by
  simp [quote, chars]

mutual

theorem toList_literal : ∀ value : Value, (literal true value).toList = (ofValue value).chars
  | .null => rfl
  | .bool _ => toList_quote _
  | .int _ => toList_quote _
  | .float _ => toList_quote _
  | .string _ => toList_quote _
  | .timestamp _ => toList_quote _
  | .array items => by
    simp only [literal, ofValue, chars, String.toList_append, String.toList_intercalate,
      toList_literals items]
    rfl

theorem toList_literals : ∀ items : List Value,
    (literals true items).map String.toList = charsOfItems (ofValues items)
  | [] => rfl
  | item :: rest => by
    rw [literals, ofValues, charsOfItems, List.map_cons, toList_literal item, toList_literals rest]

end

/-- A literal starts with a character that is neither a letter of an operator nor closes a list. -/
theorem chars_eq_cons (literal : Literal) :
    ∃ c rest, literal.chars = c :: rest ∧ (c = 'N' ∨ c = '\'' ∨ c = '(') := by
  cases literal with
  | null => exact ⟨'N', "ULL".toList, rfl, Or.inl rfl⟩
  | scalar text => exact ⟨'\'', _, rfl, Or.inr (Or.inl rfl)⟩
  | list items => exact ⟨'(', _, rfl, Or.inr (Or.inr rfl)⟩

end Literal

/-! ## Texts that follow -/

/-- The text does not go on with a quote, which would belong to a literal before it. -/
def Follows (rest : List Char) : Prop :=
  ∀ more, rest ≠ '\'' :: more

theorem follows_cons {c : Char} (notQuote : c ≠ '\'') (rest : List Char) : Follows (c :: rest) :=
  fun _ same => notQuote (List.cons.inj same).1

theorem doubleQuotes_cons (c : Char) (text : List Char) :
    doubleQuotes (c :: text) =
      (if c = '\'' then ['\'', '\''] else [c]) ++ doubleQuotes text :=
  List.flatMap_cons

/-- A text with its quotes doubled is closed by the first quote that stands alone. -/
theorem eq_of_doubleQuotes {first second rest others : List Char} (follows : Follows rest)
    (alsoFollows : Follows others)
    (same : doubleQuotes first ++ '\'' :: rest = doubleQuotes second ++ '\'' :: others) :
    first = second ∧ rest = others := by
  induction first generalizing second with
  | nil =>
      cases second with
      | nil => exact ⟨rfl, (List.cons.inj same).2⟩
      | cons d second =>
          rw [doubleQuotes_cons] at same
          split at same
          next => exact absurd (List.cons.inj same).2 (follows _)
          next notQuote => exact absurd (List.cons.inj same).1.symm notQuote
  | cons c first ih =>
      rw [doubleQuotes_cons] at same
      cases second with
      | nil =>
          split at same
          next => exact absurd (List.cons.inj same).2.symm (alsoFollows _)
          next notQuote => exact absurd (List.cons.inj same).1 notQuote
      | cons d second =>
          rw [doubleQuotes_cons] at same
          split at same <;> split at same
          next isQuote alsoQuote =>
            obtain ⟨rfl, rfl⟩ := ih (List.cons.inj (List.cons.inj same).2).2
            exact ⟨by rw [isQuote, alsoQuote], rfl⟩
          next notQuote => exact absurd (List.cons.inj same).1.symm notQuote
          next notQuote _ => exact absurd (List.cons.inj same).1 notQuote
          next =>
            obtain ⟨rfl, alike⟩ := List.cons.inj same
            obtain ⟨rfl, rfl⟩ := ih alike
            exact ⟨rfl, rfl⟩

/-! ## Texts with separators -/

section Separated

variable {α : Type} {write : α → List Char}

/-- What is written of `x` tells it from `y` before any texts that may follow. -/
def Tells (write : α → List Char) (x y : α) : Prop :=
  ∀ rest others, Follows rest → Follows others → write x ++ rest = write y ++ others →
    x = y ∧ rest = others

/-- The elements of a sequence after the first one, each after a separator, and the closing
bracket. -/
def further (write : α → List Char) (separator : List Char) (xs : List α) (rest : List Char) :
    List Char :=
  xs.flatMap (fun x => separator ++ write x) ++ ')' :: rest

theorem further_cons (separator : List Char) (x : α) (xs : List α) (rest : List Char) :
    further write separator (x :: xs) rest =
      separator ++ (write x ++ further write separator xs rest) := by
  simp [further]

theorem intercalate_append_bracket (separator : List Char) (x : α) (xs : List α)
    (rest : List Char) :
    separator.intercalate ((x :: xs).map write) ++ ')' :: rest =
      write x ++ further write separator xs rest := by
  induction xs generalizing x with
  | nil => rw [List.map_singleton, List.intercalate_singleton]; rfl
  | cons y ys ih =>
      rw [List.map_cons, List.map_cons, List.intercalate_cons_cons, List.append_assoc,
        List.append_assoc, ← List.map_cons, ih, further_cons]

variable {mark : Char} {gap : List Char} {xs ys : List α} {rest others : List Char}

theorem follows_further (notQuote : mark ≠ '\'') (xs : List α) (rest : List Char) :
    Follows (further write (mark :: gap) xs rest) := by
  cases xs with
  | nil => exact follows_cons (by decide) rest
  | cons x xs =>
      rw [further_cons]
      exact follows_cons notQuote _

theorem eq_of_further (notQuote : mark ≠ '\'') (notBracket : mark ≠ ')')
    (tells : ∀ x ∈ xs, ∀ y ∈ ys, Tells write x y)
    (same : further write (mark :: gap) xs rest = further write (mark :: gap) ys others) :
    xs = ys ∧ rest = others := by
  induction xs generalizing ys with
  | nil =>
      cases ys with
      | nil => exact ⟨rfl, (List.cons.inj same).2⟩
      | cons y ys =>
          rw [further_cons] at same
          exact absurd (List.cons.inj same).1.symm notBracket
  | cons x xs ih =>
      cases ys with
      | nil =>
          rw [further_cons] at same
          exact absurd (List.cons.inj same).1 notBracket
      | cons y ys =>
          rw [further_cons, further_cons] at same
          obtain ⟨rfl, later⟩ := tells x List.mem_cons_self y List.mem_cons_self _ _
            (follows_further notQuote xs rest) (follows_further notQuote ys others)
            (List.append_cancel_left same)
          obtain ⟨rfl, ends⟩ := ih (fun z inXs w inYs =>
            tells z (List.mem_cons_of_mem _ inXs) w (List.mem_cons_of_mem _ inYs)) later
          exact ⟨rfl, ends⟩

/-- Two sequences that are written alike, with separators and a bracket at the end, are the same. -/
theorem eq_of_intercalate (mark : Char) (gap : List Char) (notQuote : mark ≠ '\'')
    (notBracket : mark ≠ ')')
    (opens : ∀ x ∈ xs ++ ys, ∀ more others, write x ++ more ≠ ')' :: others)
    (tells : ∀ x ∈ xs, ∀ y ∈ ys, Tells write x y)
    (same : (mark :: gap).intercalate (xs.map write) ++ ')' :: rest =
      (mark :: gap).intercalate (ys.map write) ++ ')' :: others) :
    xs = ys ∧ rest = others := by
  cases xs with
  | nil =>
      cases ys with
      | nil => exact ⟨rfl, (List.cons.inj same).2⟩
      | cons y ys =>
          rw [intercalate_append_bracket] at same
          exact absurd same.symm (opens y List.mem_cons_self _ _)
  | cons x xs =>
      rw [intercalate_append_bracket] at same
      cases ys with
      | nil => exact absurd same (opens x (List.mem_append_left _ List.mem_cons_self) _ _)
      | cons y ys =>
          rw [intercalate_append_bracket] at same
          obtain ⟨rfl, later⟩ := tells x List.mem_cons_self y List.mem_cons_self _ _
            (follows_further notQuote xs rest) (follows_further notQuote ys others) same
          obtain ⟨rfl, ends⟩ := eq_of_further notQuote notBracket (fun z inXs w inYs =>
            tells z (List.mem_cons_of_mem _ inXs) w (List.mem_cons_of_mem _ inYs)) later
          exact ⟨rfl, ends⟩

end Separated

namespace Literal

theorem opens (literal : Literal) (more others : List Char) :
    literal.chars ++ more ≠ ')' :: others := by
  obtain ⟨c, rest, written, starts⟩ := literal.chars_eq_cons
  rw [written]
  intro same
  obtain rfl := (List.cons.inj same).1
  simp at starts

mutual

/-- A literal is told from every other one, whatever follows. -/
theorem determined : ∀ first second : Literal, Tells chars first second
  | null, second => by
    intro rest others _ _ same
    cases second with
    | null => exact ⟨rfl, List.append_cancel_left same⟩
    | scalar _ => simp [chars] at same
    | list _ => simp [chars] at same
  | scalar text, second => by
    intro rest others follows alsoFollows same
    cases second with
    | null => simp [chars] at same
    | scalar other =>
        simp only [chars, List.cons_append, List.append_assoc, List.nil_append] at same
        obtain ⟨texts, ends⟩ := eq_of_doubleQuotes follows alsoFollows (List.cons.inj same).2
        exact ⟨congrArg scalar (String.toList_inj.mp texts), ends⟩
    | list _ => simp [chars] at same
  | list items, second => by
    intro rest others _ _ same
    cases second with
    | null => simp [chars] at same
    | scalar _ => simp [chars] at same
    | list others =>
        simp only [chars, charsOfItems_eq_map, List.cons_append, List.append_assoc,
          List.nil_append] at same
        obtain ⟨alike, ends⟩ := eq_of_intercalate ',' [' '] (by decide) (by decide)
          (fun literal _ => literal.opens) (determined_items items others) (List.cons.inj same).2
        exact ⟨congrArg list alike, ends⟩

theorem determined_items : ∀ (items others : List Literal),
    ∀ x ∈ items, ∀ y ∈ others, Tells chars x y
  | [], _ => fun _ absent => absurd absent List.not_mem_nil
  | item :: rest, others => fun x present y _ => by
    rcases List.mem_cons.mp present with here | later
    · exact here ▸ determined item y
    · exact determined_items rest others x later y ‹_›

end

end Literal

end Keyset.Cql
