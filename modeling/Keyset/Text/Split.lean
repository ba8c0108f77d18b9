/-! # Cutting texts at a mark

A text is cut at every occurrence of a mark (`Keyset.Text.cut`), or only at the first one
(`Keyset.Text.cutOnce?`). The pieces hold none of the marks that were cut at.
-/

namespace Keyset.Text

/-- The pieces of a text between the occurrences of a mark. There is always one piece more than
there are marks. -/
def cut (mark : Char) : List Char → List (List Char)
  | [] => [[]]
  | c :: rest =>
    if c = mark then [] :: cut mark rest
    else
      match cut mark rest with
      | first :: others => (c :: first) :: others
      | [] => [[c]]

/-- The pieces of a string between the occurrences of a mark. -/
def cutString (mark : Char) (text : String) : List String :=
  (cut mark text.toList).map String.ofList

/-- The text before the first occurrence of a mark and the text after it, if there is one. -/
def cutOnce? (mark : Char) (text : String) : Option (String × String) :=
  match text.toList.dropWhile (· != mark) with
  | [] => none
  | _ :: rest => some (String.ofList (text.toList.takeWhile (· != mark)), String.ofList rest)

theorem cut_ne_nil (mark : Char) (text : List Char) : cut mark text ≠ [] := by
  cases text with
  | nil => exact List.cons_ne_nil _ _
  | cons c rest =>
      simp only [cut]
      split
      · exact List.cons_ne_nil _ _
      · split <;> exact List.cons_ne_nil _ _

end Keyset.Text
