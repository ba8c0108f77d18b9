import Keyset.Text.Printable

/-! # Errors of the text grammars

A text that is no sentence of a grammar either has no part of a sentence at its start, or a part
that is read and a rest that is not.
-/

namespace Keyset

/-- Why a text is no sentence of a grammar. -/
inductive ParseError
  /-- No sentence starts the text. -/
  | nothing (text : String)
  /-- After the longest sentence, which takes so many bytes, a rest follows. -/
  | trailing (position : Nat) (rest : String)
deriving DecidableEq

/-- The sentence about the error. -/
def ParseError.message : ParseError → String
  | nothing text =>
    "Parse error at position 0: Parse failed: Error(Error \x7b input: " ++ Text.display text ++
      ", code: TakeWhile1 \x7d)"
  | trailing position rest =>
    "Parse error at position " ++ toString position ++ ": Unexpected trailing content: '" ++ rest ++
      "'"

/-- The result of reading a whole text, given what was read of it and the rest. -/
def ParseError.whole {α : Type} (text : List Char) :
    Option (α × List Char) → Except ParseError α
  | none => .error (.nothing (String.ofList text))
  | some (result, []) => .ok result
  | some (_, rest) =>
    let restText := String.ofList rest
    .error (.trailing ((String.ofList text).utf8ByteSize - restText.utf8ByteSize) restText)

/-- A whole text is read iff nothing of it is left. -/
theorem ParseError.whole_eq_ok_iff {α : Type} {text : List Char} {read : Option (α × List Char)}
    {result : α} : whole text read = .ok result ↔ read = some (result, []) := by
  cases read with
  | none => exact ⟨nofun, nofun⟩
  | some read =>
      obtain ⟨found, rest⟩ := read
      cases rest with
      | nil =>
          constructor
          · intro made
            obtain rfl := Except.ok.inj made
            rfl
          · rintro ⟨⟩
            rfl
      | cons c more => exact ⟨nofun, nofun⟩

end Keyset
