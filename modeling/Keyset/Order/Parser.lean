import Keyset.Order.Basic
import Keyset.ParseError
import Keyset.Text.Alphanumeric

/-! # Reading orders from text

An order is written as entries with commas between them. An entry is a field, a field with a
direction after a bar or after spaces, or a field after `^` (ascending) or `^!` (descending).
`Keyset.Order.readPrefix?` reads the longest part that it can; `Keyset.Order.parse` wants the
whole text to be read.
-/

namespace Keyset.Order

open Text (skipGaps length_skipGaps_le)

/-- The characters of field names. -/
def isFieldChar (c : Char) : Bool :=
  Text.isAlphanumeric c || c == '_' || c == '.'

/-- A field name, and the rest. -/
def readField? (text : List Char) : Option (String × List Char) :=
  match text.takeWhile isFieldChar with
  | [] => none
  | name => some (String.ofList name, text.dropWhile isFieldChar)

/-- A direction, and the rest. -/
def readDirection? (text : List Char) : Option (Direction × List Char) :=
  match text with
  | 'D' :: 'E' :: 'S' :: 'C' :: rest => some (.desc, rest)
  | 'A' :: 'S' :: 'C' :: rest => some (.asc, rest)
  | _ => none

/-- Spaces and tabs, which may stand between a field and its direction. -/
def isSpacing (c : Char) : Bool :=
  c == ' ' || c == '\t'

/-- A direction after a bar or spacing, and the rest. -/
def readMarkedDirection? (text : List Char) : Option (Direction × List Char) :=
  match skipGaps text with
  | '|' :: rest => readDirection? (skipGaps rest)
  | _ =>
    match text with
    | c :: _ => if isSpacing c then readDirection? (text.dropWhile isSpacing) else none
    | [] => none

/-- An entry, and the rest. -/
def readLevel? (text : List Char) : Option (OrderEntry × List Char) :=
  match text with
  | '^' :: '!' :: rest => (readField? rest).map fun (field, rest) => (⟨field, .desc⟩, rest)
  | '^' :: rest => (readField? rest).map fun (field, rest) => (⟨field, .asc⟩, rest)
  | _ => (readField? text).map fun (field, rest) =>
    match readMarkedDirection? rest with
    | some (direction, rest) => (⟨field, direction⟩, rest)
    | none => (⟨field, .asc⟩, rest)

/-- A comma between blanks and the entry after it, and the rest. -/
def readNext? (text : List Char) : Option (OrderEntry × List Char) :=
  match skipGaps text with
  | ',' :: rest => readLevel? (skipGaps rest)
  | _ => none

theorem length_of_readField? {text : List Char} {field : String} {rest : List Char}
    (read : readField? text = some (field, rest)) : rest.length ≤ text.length := by
  unfold readField? at read
  split at read
  · cases read
  · cases read
    exact (List.dropWhile_suffix _).length_le

theorem length_of_readDirection? {text : List Char} {direction : Direction} {rest : List Char}
    (read : readDirection? text = some (direction, rest)) : rest.length ≤ text.length := by
  unfold readDirection? at read
  split at read
  · cases read
    simp only [List.length_cons]
    omega
  · cases read
    simp only [List.length_cons]
    omega
  · cases read

theorem length_of_readMarkedDirection? {text : List Char} {direction : Direction}
    {rest : List Char} (read : readMarkedDirection? text = some (direction, rest)) :
    rest.length ≤ text.length := by
  unfold readMarkedDirection? at read
  split at read
  next afterBar skipped =>
    have first := length_of_readDirection? read
    have second := length_skipGaps_le afterBar
    have third := length_skipGaps_le text
    rw [skipped, List.length_cons] at third
    omega
  next =>
    split at read
    · split at read
      · exact Nat.le_trans (length_of_readDirection? read) (List.dropWhile_suffix _).length_le
      · cases read
    · cases read

theorem length_of_readLevel? {text : List Char} {entry : OrderEntry} {rest : List Char}
    (read : readLevel? text = some (entry, rest)) : rest.length ≤ text.length := by
  unfold readLevel? at read
  split at read
  · obtain ⟨⟨field, after⟩, readField, same⟩ := Option.map_eq_some_iff.mp read
    cases same
    have shorter := length_of_readField? readField
    simp only [List.length_cons]
    omega
  · obtain ⟨⟨field, after⟩, readField, same⟩ := Option.map_eq_some_iff.mp read
    cases same
    have shorter := length_of_readField? readField
    simp only [List.length_cons]
    omega
  · obtain ⟨⟨field, after⟩, readField, same⟩ := Option.map_eq_some_iff.mp read
    have shorter := length_of_readField? readField
    simp only at same
    split at same
    next direction afterDirection marked =>
      cases same
      exact Nat.le_trans (length_of_readMarkedDirection? marked) shorter
    next =>
      cases same
      exact shorter

/-- The comma makes the rest shorter. -/
theorem length_of_readNext? {text : List Char} {entry : OrderEntry} {rest : List Char}
    (read : readNext? text = some (entry, rest)) : rest.length < text.length := by
  unfold readNext? at read
  split at read
  next afterComma skipped =>
    have first := length_of_readLevel? read
    have second := length_skipGaps_le afterComma
    have third := length_skipGaps_le text
    rw [skipped, List.length_cons] at third
    omega
  next => cases read

/-- The entries after the first, and the rest. -/
def readMore (text : List Char) : Order × List Char :=
  match _ : readNext? text with
  | none => ([], text)
  | some (entry, rest) => (entry :: (readMore rest).1, (readMore rest).2)
termination_by text.length
decreasing_by all_goals exact length_of_readNext? ‹_›

/-- The longest order at the start of a text, and the rest. -/
def readPrefix? (text : List Char) : Option (Order × List Char) :=
  (readLevel? text).map fun (entry, rest) => (entry :: (readMore rest).1, (readMore rest).2)

/-- The order of a text between blanks. -/
def parse (input : String) : Except ParseError Order :=
  let text := Text.trimChars input.toList
  ParseError.whole text (readPrefix? text)

end Keyset.Order
