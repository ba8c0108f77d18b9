/-! # Matching patterns

A pattern is matched from left to right. A character stands for itself, `_` for any one
character and `%` for any run of characters. A character of the text that is the same as the
character of the pattern is always taken for it, so that `%` in a text stands for `%` in the
pattern. Of several runs only the last one is tried at several lengths
(`Keyset.Like.matchRun`).
-/

namespace Keyset.Like

/-- What comes of matching a text with a pattern up to the next run. -/
inductive Attempt
  /-- The text is at its end, and the rest of the pattern is left. -/
  | finished (pattern : List Char)
  /-- The pattern goes on with a run, after which this pattern is left; this text is left. -/
  | run (text pattern : List Char)
  /-- A character of the text is not the one of the pattern, or the pattern is at its end. -/
  | mismatch

/-- Match single characters up to the next run. -/
def attempt : (text pattern : List Char) → Attempt
  | [], pattern => .finished pattern
  | _ :: _, [] => .mismatch
  | c :: text, p :: pattern =>
    if p == '_' || p == c then attempt text pattern
    else if p == '%' then .run (c :: text) pattern
    else .mismatch

/-- Whether a pattern matches the empty text. -/
def matchesEmpty (pattern : List Char) : Bool :=
  pattern.all (· == '%')

/-- The pattern after a run is a shorter one. -/
theorem length_of_attempt_run {text pattern text' pattern' : List Char}
    (run : attempt text pattern = .run text' pattern') : pattern'.length < pattern.length := by
  induction text generalizing pattern with
  | nil => cases run
  | cons c text ih =>
      cases pattern with
      | nil => cases run
      | cons p pattern =>
          simp only [attempt] at run
          split at run
          · exact Nat.lt_succ_of_lt (ih run)
          · split at run
            · cases run
              exact Nat.lt_succ_self _
            · cases run

/-- Whether a text consists of a run of any length and a match of the pattern. The shortest run
is tried first; if a further run follows, only that one is tried at several lengths. -/
def matchRun (pattern : List Char) (text : List Char) : Bool :=
  match _ : attempt text pattern with
  | .finished rest => matchesEmpty rest
  | .run text' pattern' => matchRun pattern' text'
  | .mismatch =>
    match text with
    | [] => false
    | _ :: shorter => matchRun pattern shorter
termination_by (pattern.length, text.length)
decreasing_by
  · exact Prod.Lex.left _ _ (length_of_attempt_run ‹_›)
  · exact Prod.Lex.right _ (Nat.lt_succ_self _)

/-- Whether a text matches a pattern. -/
def matchChars (text pattern : List Char) : Bool :=
  match attempt text pattern with
  | .finished rest => matchesEmpty rest
  | .run text' pattern' => matchRun pattern' text'
  | .mismatch => false

end Keyset.Like
