import Keyset.Proofs.Predicate.Like

/-! # Matching by two places

The matcher as a loop: it goes through the text and the pattern by two places, and remembers the
last run of the pattern and how far in the text that run stands (`Keyset.Like.Scan.step`). Where a
character does not match, the run is made longer by one character and both places go back behind it.
What the matcher says of a text is known at every round (`Keyset.Like.Scan.answer`). A round changes
neither this answer nor that all places are in range, and it lowers a budget of rounds
(`Keyset.Like.Scan.keeps_step`), so that the loop ends with the answer of the matcher
(`Keyset.Like.loop_finds_readings`).
-/

namespace Keyset.Like

/-- A run of a pattern that the loop has met. -/
structure Run where
  /-- The place of the run in the pattern. -/
  place : Nat
  /-- The place in the text behind the last character of the run. -/
  stop : Nat

/-- Where the loop over a text and a pattern stands. -/
structure Scan where
  /-- The place in the text. -/
  text : Nat
  /-- The place in the pattern. -/
  pattern : Nat
  /-- The last run. -/
  run? : Option Run

/-- What a round of the loop leads to. -/
inductive Round
  | next (scan : Scan)
  | done (matched : Bool)
  /-- A character was asked for behind the end of the text or of the pattern. -/
  | outOfRange

namespace Scan

/-- Where the loop starts. -/
def start : Scan :=
  ⟨0, 0, none⟩

/-- Make the last run longer by one character, and go on behind it. -/
def retry (scan : Scan) : Round :=
  match scan.run? with
  | some run => .next ⟨run.stop + 1, run.place + 1, some ⟨run.place, run.stop + 1⟩⟩
  | none => .done false

/-- Look at what is left of the pattern at the end of the text. -/
def finish (pattern : List Char) (scan : Scan) : Round :=
  if scan.pattern ≤ pattern.length then .done (matchesEmpty (pattern.drop scan.pattern))
  else .outOfRange

/-- One round of the loop. -/
def step (text pattern : List Char) (scan : Scan) : Round :=
  if scan.text < text.length then
    if scan.pattern < pattern.length then
      match text[scan.text]?, pattern[scan.pattern]? with
      | some c, some p =>
        if p == '_' || p == c then .next ⟨scan.text + 1, scan.pattern + 1, scan.run?⟩
        else if p == '%' then
          .next ⟨scan.text, scan.pattern + 1, some ⟨scan.pattern, scan.text⟩⟩
        else retry scan
      | _, _ => .outOfRange
    else retry scan
  else finish pattern scan

/-- So many rounds of the loop, or fewer if it ends before. -/
def loop (text pattern : List Char) : (rounds : Nat) → Scan → Round
  | 0, scan => .next scan
  | rounds + 1, scan =>
    match step text pattern scan with
    | .next later => loop text pattern rounds later
    | ended => ended

/-- All places are in range, and the last run stands up to a place that the loop has reached. -/
structure InRange (text pattern : List Char) (scan : Scan) : Prop where
  text_le : scan.text ≤ text.length
  pattern_le : scan.pattern ≤ pattern.length
  place_lt : ∀ run ∈ scan.run?, run.place < pattern.length
  stop_le : ∀ run ∈ scan.run?, run.stop ≤ scan.text

/-- What the matcher says from here on: if the characters up to the next run do not match, what it
says after the last run has been made longer. -/
def answer (text pattern : List Char) (scan : Scan) : Bool :=
  match attempt (text.drop scan.text) (pattern.drop scan.pattern) with
  | .finished rest => matchesEmpty rest
  | .run text' pattern' => matchRun pattern' text'
  | .mismatch =>
    match scan.run? with
    | some run => matchRun (pattern.drop (run.place + 1)) (text.drop (run.stop + 1))
    | none => false

/-- How many rounds there are left at most. A run can be made longer up to the end of the text, and
each time the pattern is gone through at most once. -/
def budget (text pattern : List Char) (scan : Scan) : Nat :=
  (text.length - (scan.run?.map Run.stop).getD 0) * (pattern.length + 1) +
    (pattern.length - scan.pattern) + 1

end Scan

/-- What a round has to leave as it was, if the loop stood at `scan`. -/
def Round.Keeps (text pattern : List Char) (scan : Scan) : Round → Prop
  | .next later =>
    later.InRange text pattern ∧ later.answer text pattern = scan.answer text pattern ∧
      later.budget text pattern < scan.budget text pattern
  | .done matched => matched = scan.answer text pattern
  | .outOfRange => False

theorem matchRun_eq (text pattern : List Char) :
    matchRun pattern text =
      match attempt text pattern with
      | .finished rest => matchesEmpty rest
      | .run text' pattern' => matchRun pattern' text'
      | .mismatch => matchRun pattern text.tail := by
  rw [matchRun]
  cases text with
  | nil => rfl
  | cons c shorter =>
      split
      next attempted => rw [attempted]
      next attempted => rw [attempted]
      next attempted => simp only [attempted, List.tail_cons]

namespace Scan

variable {text pattern : List Char} {scan : Scan}

/-- Behind a run, the answer is that of the run. -/
theorem answer_behind (text pattern : List Char) (place stop : Nat) :
    answer text pattern ⟨stop, place + 1, some ⟨place, stop⟩⟩ =
      matchRun (pattern.drop (place + 1)) (text.drop stop) := by
  rw [matchRun_eq, List.tail_drop]
  rfl

theorem keeps_retry (inRange : scan.InRange text pattern) (inText : scan.text < text.length)
    (mismatch : attempt (text.drop scan.text) (pattern.drop scan.pattern) = .mismatch) :
    (retry scan).Keeps text pattern scan := by
  obtain ⟨t, p, run?⟩ := scan
  cases run? with
  | none => simp only [retry, Round.Keeps, answer, mismatch]
  | some run =>
      have place := inRange.place_lt run rfl
      have stop : run.stop < text.length := Nat.lt_of_le_of_lt (inRange.stop_le run rfl) inText
      refine ⟨⟨stop, place, ?_, ?_⟩, ?_, ?_⟩
      · rintro _ ⟨⟩
        exact place
      · rintro _ ⟨⟩
        exact Nat.le_refl _
      · rw [answer_behind]
        simp only [answer, mismatch]
      · -- One character less for the run outweighs the whole pattern.
        have fewer : text.length - run.stop = text.length - (run.stop + 1) + 1 := by omega
        simp only [budget, Option.map_some, Option.getD_some, fewer, Nat.succ_mul]
        omega

theorem keeps_finish (inRange : scan.InRange text pattern) (atEnd : ¬scan.text < text.length) :
    (finish pattern scan).Keeps text pattern scan := by
  have noText : text.drop scan.text = [] := List.drop_eq_nil_of_le (Nat.not_lt.mp atEnd)
  simp only [finish, inRange.pattern_le, ↓reduceIte, Round.Keeps, answer, noText, attempt]

/-- **What a round keeps.** It asks for no character out of range; it stays in range, keeps the
answer and lowers the budget, or ends with the answer. -/
theorem keeps_step (inRange : scan.InRange text pattern) :
    (step text pattern scan).Keeps text pattern scan := by
  unfold step
  split
  next inText =>
    have textCons := List.drop_eq_getElem_cons inText
    split
    next inPattern =>
      have patternCons := List.drop_eq_getElem_cons inPattern
      simp only [List.getElem?_eq_getElem inText, List.getElem?_eq_getElem inPattern]
      split
      next meets =>
        refine ⟨⟨inText, inPattern, inRange.place_lt, ?_⟩, ?_, ?_⟩
        · exact fun run present => Nat.le_succ_of_le (inRange.stop_le run present)
        · simp only [answer, textCons, patternCons, attempt, meets, ↓reduceIte]
        · simp only [budget]
          omega
      next differs =>
        split
        next isRun =>
          refine ⟨⟨inRange.text_le, inPattern, ?_, ?_⟩, ?_, ?_⟩
          · rintro _ ⟨⟩
            exact inPattern
          · rintro _ ⟨⟩
            exact Nat.le_refl _
          · rw [answer_behind]
            simp only [answer, textCons, patternCons, attempt, differs, isRun, Bool.false_eq_true,
              ↓reduceIte]
          · have further : (scan.run?.map Run.stop).getD 0 ≤ scan.text := by
              cases run : scan.run? with
              | none => exact Nat.zero_le _
              | some run' => exact inRange.stop_le run' run
            have less := Nat.mul_le_mul_right (pattern.length + 1)
              (Nat.sub_le_sub_left further text.length)
            simp only [budget, Option.map_some, Option.getD_some]
            omega
        next notRun =>
          refine keeps_retry inRange inText ?_
          simp only [textCons, patternCons, attempt, differs, notRun, Bool.false_eq_true,
            ↓reduceIte]
    next atEnd =>
      refine keeps_retry inRange inText ?_
      rw [textCons, List.drop_eq_nil_of_le (Nat.not_lt.mp atEnd), attempt]
  next atEnd => exact keeps_finish inRange atEnd

/-- The loop ends with the answer, within the budget. -/
theorem exists_rounds (inRange : scan.InRange text pattern) :
    ∃ rounds ≤ scan.budget text pattern,
      loop text pattern rounds scan = .done (scan.answer text pattern) := by
  induction left : scan.budget text pattern using Nat.strongRecOn generalizing scan with
  | ind left' ih =>
      have kept := keeps_step inRange
      cases round : step text pattern scan with
      | next later =>
          rw [round] at kept
          obtain ⟨laterInRange, same, less⟩ := kept
          obtain ⟨rounds, within, ends⟩ := ih _ (left ▸ less) laterInRange rfl
          refine ⟨rounds + 1, left ▸ Nat.lt_of_le_of_lt within less, ?_⟩
          rw [loop, round, ← same]
          exact ends
      | done matched =>
          rw [round] at kept
          refine ⟨1, left ▸ Nat.le_add_left 1 _, ?_⟩
          rw [loop, round, ← show matched = _ from kept]
      | outOfRange =>
          rw [round] at kept
          exact kept.elim

theorem loop_ne_outOfRange (inRange : scan.InRange text pattern) (rounds : Nat) :
    loop text pattern rounds scan ≠ .outOfRange := by
  induction rounds generalizing scan with
  | zero => exact nofun
  | succ rounds ih =>
      have kept := keeps_step inRange
      rw [loop]
      cases round : step text pattern scan with
      | next later =>
          rw [round] at kept
          exact ih kept.1
      | done => exact nofun
      | outOfRange =>
          rw [round] at kept
          exact kept.elim

theorem start_inRange (text pattern : List Char) : start.InRange text pattern :=
  ⟨Nat.zero_le _, Nat.zero_le _, nofun, nofun⟩

theorem answer_start (text pattern : List Char) :
    start.answer text pattern = matchChars text pattern := rfl

theorem budget_start (text pattern : List Char) :
    start.budget text pattern = (text.length + 1) * (pattern.length + 1) := by
  simp only [budget, start, Option.map_none, Option.getD_none, Nat.sub_zero, Nat.succ_mul,
    Nat.add_assoc]

end Scan

/-- **The loop finds readings.** It ends for every text and pattern, after no more rounds than the
lengths allow, and never asks for a character behind an end. It says what the matcher says: it finds
only texts that the pattern reads, and all of them among the texts without a `%`. -/
theorem loop_finds_readings (text pattern : List Char) :
    (∃ rounds ≤ (text.length + 1) * (pattern.length + 1),
      Scan.loop text pattern rounds Scan.start = .done (matchChars text pattern)) ∧
    (∀ rounds, Scan.loop text pattern rounds Scan.start ≠ .outOfRange) ∧
    (matchChars text pattern = true → Reads pattern text) ∧
    ('%' ∉ text → (matchChars text pattern = true ↔ Reads pattern text)) := by
  have inRange := Scan.start_inRange text pattern
  refine ⟨?_, Scan.loop_ne_outOfRange inRange, reads_of_matchChars, fun noMark => ?_⟩
  · rw [← Scan.budget_start, ← Scan.answer_start]
    exact Scan.exists_rounds inRange
  · exact ⟨reads_of_matchChars, fun reads => matchChars_of_reads reads (Or.inr noMark)⟩

end Keyset.Like
