import Mathlib.Data.List.TakeWhile

/-! # Runs of characters

A reader that takes a run of characters of some class takes all of a run that the rest does not
go on with (`Keyset.Text.takeWhile_run`, `Keyset.Text.dropWhile_run`).
-/

namespace Keyset.Text

variable {inClass : Char → Bool} {run rest : List Char}

theorem takeWhile_run (inside : ∀ c ∈ run, inClass c = true)
    (stops : ∀ c ∈ rest.head?, inClass c = false) : (run ++ rest).takeWhile inClass = run := by
  rw [List.takeWhile_append_of_pos inside]
  cases rest with
  | nil => rw [List.takeWhile_nil, List.append_nil]
  | cons c more =>
      have outside : ¬inClass c = true := by rw [stops c rfl]; decide
      rw [List.takeWhile_cons_of_neg outside, List.append_nil]

theorem dropWhile_run (inside : ∀ c ∈ run, inClass c = true)
    (stops : ∀ c ∈ rest.head?, inClass c = false) : (run ++ rest).dropWhile inClass = rest := by
  have whole := List.takeWhile_append_dropWhile (p := inClass) (l := run ++ rest)
  rw [takeWhile_run inside stops] at whole
  exact List.append_cancel_left whole

theorem dropWhile_of_head? (stops : ∀ c ∈ rest.head?, inClass c = false) :
    rest.dropWhile inClass = rest :=
  dropWhile_run (List.forall_mem_nil _) stops

end Keyset.Text
