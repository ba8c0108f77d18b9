import Keyset.Predicate.Eval
import Keyset.Proofs.Predicate.Like

/-! # Comparing strings

A field with a string is compared with another string by equality or by a pattern, and the negated
operators have the opposite answers. A pattern finds a text iff it has a reading in which no run
starts at a `%` of the text (`Keyset.Predicate.eval_like_iff`), so that a text with a `%` may be
missed although the pattern reads it (`Keyset.Predicate.eval_like_missed`).
-/

namespace Keyset.Predicate

variable {record : Record} {field text : String}

theorem areEqual_string (first second : String) :
    areEqual (.string first) (.string second) = decide (first = second) := by
  rw [Bool.eq_iff_iff, decide_eq_true_eq]
  simp [areEqual, Value.compare]

theorem eval_eq (kept : record.value field = .string text) (expected : String) :
    (compare field .eq (.string expected)).eval record = .ok (decide (text = expected)) := by
  rw [eval, kept, holds, areEqual_string]

theorem eval_ne (kept : record.value field = .string text) (expected : String) :
    (compare field .ne (.string expected)).eval record = .ok (!decide (text = expected)) := by
  rw [eval, kept, ← areEqual_string]
  rfl

theorem eval_like (kept : record.value field = .string text) (pattern : String) :
    (compare field .like (.string pattern)).eval record =
      .ok (Like.matchChars text.toList pattern.toList) := by
  rw [eval, kept]
  rfl

theorem eval_notLike (kept : record.value field = .string text) (pattern : String) :
    (compare field .notLike (.string pattern)).eval record =
      .ok (!Like.matchChars text.toList pattern.toList) := by
  rw [eval, kept]
  rfl

theorem eval_iLike (kept : record.value field = .string text) (pattern : String) :
    (compare field .iLike (.string pattern)).eval record =
      .ok (Like.matchChars (Text.lower text).toList (Text.lower pattern).toList) := by
  rw [eval, kept]
  rfl

theorem eval_notILike (kept : record.value field = .string text) (pattern : String) :
    (compare field .notILike (.string pattern)).eval record =
      .ok (!Like.matchChars (Text.lower text).toList (Text.lower pattern).toList) := by
  rw [eval, kept]
  rfl

/-- **What a pattern finds.** The pattern and its negation have opposite answers on every text. The
text is found iff it has a reading in which a `%` of the pattern that meets a `%` of the text stands
for that character alone; where the pattern or the text has no `%`, any reading is one. -/
theorem eval_like_iff (kept : record.value field = .string text) (pattern : String) :
    ∃ found,
      (compare field .like (.string pattern)).eval record = .ok found ∧
      (compare field .notLike (.string pattern)).eval record = .ok (!found) ∧
      (found = true ↔ Like.Takes pattern.toList text.toList) ∧
      (Like.Reads pattern.toList text.toList → '%' ∉ pattern.toList ∨ '%' ∉ text.toList →
        found = true) :=
  ⟨_, eval_like kept pattern, eval_notLike kept pattern, Like.matchChars_eq_true_iff,
    Like.matchChars_of_reads⟩

/-- A text with marks of its own is found where the run starts before them. -/
theorem eval_like_iff_later_mark :
    let record : Record := FieldMap.ofList [("note", .string "a%b%")]
    record.value "note" = .string "a%b%" ∧
      (compare "note" .like (.string "%b_")).eval record = .ok true ∧
      (compare "note" .notLike (.string "%b_")).eval record = .ok false ∧
      Like.Takes "%b_".toList "a%b%".toList := by
  intro record
  have kept : record.value "note" = .string "a%b%" := rfl
  obtain ⟨found, like, notLike, iff, -⟩ := eval_like_iff kept "%b_"
  have takes : Like.Takes "%b_".toList "a%b%".toList :=
    .run ['a', '%'] (by decide) (.char (by decide) (by decide) (.any '%' .nil))
  obtain rfl : found = true := iff.mpr takes
  exact ⟨kept, like, notLike, takes⟩

/-- The pattern of a run alone reads every text, and misses one that starts with a `%`. -/
theorem eval_like_missed :
    let record : Record := FieldMap.ofList [("note", .string "%a")]
    Like.Reads "%".toList "%a".toList ∧
      (compare "note" .like (.string "%")).eval record = .ok false ∧
      (compare "note" .notLike (.string "%")).eval record = .ok true := by
  intro record
  have kept : record.value "note" = .string "%a" := rfl
  have missed : Like.matchChars "%a".toList "%".toList = false := by decide
  refine ⟨.run ['%', 'a'] .nil, ?_, ?_⟩
  · rw [eval_like kept, missed]
  · rw [eval_notLike kept, missed]
    rfl

end Keyset.Predicate
