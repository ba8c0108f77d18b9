import Keyset.Predicate.Like

/-! # What a pattern reads

A pattern reads a text if the text can be cut so that every `%` stands for a run of characters,
every `_` for one character and every other character for itself (`Keyset.Like.Reads`). The matcher
takes the marks of a text for those of the pattern first: it finds the texts that have a reading in
which no run starts at a `%`, such a character standing for the mark alone (`Keyset.Like.Takes`,
`Keyset.Like.matchChars_eq_true_iff`). That it tries only the last run at several lengths loses
nothing. So what it finds is read (`Keyset.Like.reads_of_matchChars`), and where the pattern or the
text has no `%`, what is read is found (`Keyset.Like.matchChars_of_reads`).
-/

namespace Keyset.Like

/-- The pattern stands for the text. -/
inductive Reads : (pattern text : List Char) → Prop
  | nil : Reads [] []
  /-- `_` stands for any one character. -/
  | any (c : Char) {pattern text : List Char} (later : Reads pattern text) :
      Reads ('_' :: pattern) (c :: text)
  /-- `%` stands for any run of characters. -/
  | run (skipped : List Char) {pattern text : List Char} (later : Reads pattern text) :
      Reads ('%' :: pattern) (skipped ++ text)
  /-- Any other character stands for itself. -/
  | char {c : Char} (notAny : c ≠ '_') (notRun : c ≠ '%') {pattern text : List Char}
      (later : Reads pattern text) : Reads (c :: pattern) (c :: text)

variable {pattern text : List Char}

theorem reads_run_iff :
    Reads ('%' :: pattern) text ↔ ∃ skipped rest, text = skipped ++ rest ∧ Reads pattern rest := by
  constructor
  · intro reads
    cases reads with
    | run skipped later => exact ⟨skipped, _, rfl, later⟩
    | char _ notRun => exact absurd rfl notRun
  · rintro ⟨skipped, rest, rfl, later⟩
    exact .run skipped later

theorem reads_char_iff {c : Char} (notAny : c ≠ '_') (notRun : c ≠ '%') :
    Reads (c :: pattern) text ↔ ∃ rest, text = c :: rest ∧ Reads pattern rest := by
  constructor
  · intro reads
    cases reads with
    | any => exact absurd rfl notAny
    | run => exact absurd rfl notRun
    | char _ _ later => exact ⟨_, rfl, later⟩
  · rintro ⟨rest, rfl, later⟩
    exact .char notAny notRun later

/-- A character of the pattern stands for the same character of the text, be it a mark or not. -/
theorem Reads.self (c : Char) (later : Reads pattern text) : Reads (c :: pattern) (c :: text) := by
  by_cases isAny : c = '_'
  · exact isAny ▸ .any c later
  · by_cases isRun : c = '%'
    · exact isRun ▸ .run [c] later
    · exact .char isAny isRun later

theorem Reads.of_append {first second : List Char} (reads : Reads (first ++ second) text) :
    ∃ start rest, text = start ++ rest ∧ Reads first start ∧ Reads second rest := by
  induction first generalizing text with
  | nil => exact ⟨[], text, rfl, .nil, reads⟩
  | cons p first ih =>
      cases reads with
      | any c later =>
          obtain ⟨start, rest, rfl, here, there⟩ := ih later
          exact ⟨c :: start, rest, rfl, .any c here, there⟩
      | run skipped later =>
          obtain ⟨start, rest, rfl, here, there⟩ := ih later
          exact ⟨skipped ++ start, rest, (List.append_assoc _ _ _).symm, .run skipped here, there⟩
      | char notAny notRun later =>
          obtain ⟨start, rest, rfl, here, there⟩ := ih later
          exact ⟨_ :: start, rest, rfl, .char notAny notRun here, there⟩

/-- Characters in front of a pattern stand for the same characters in front of a text. -/
theorem Reads.self_append (start : List Char) (later : Reads pattern text) :
    Reads (start ++ pattern) (start ++ text) := by
  induction start with
  | nil => exact later
  | cons c start ih => exact ih.self c

/-- A run at the end of a pattern stands for any rest. -/
theorem reads_rest (text : List Char) : Reads ['%'] text :=
  reads_run_iff.mpr ⟨text, [], (List.append_nil text).symm, .nil⟩

/-- A pattern without marks reads itself only. -/
theorem Reads.eq_of_plain (reads : Reads pattern text) (noAny : '_' ∉ pattern)
    (noRun : '%' ∉ pattern) : text = pattern := by
  induction reads with
  | nil => rfl
  | any => exact absurd List.mem_cons_self noAny
  | run => exact absurd List.mem_cons_self noRun
  | char _ _ _ ih =>
      rw [ih (fun later => noAny (List.mem_cons_of_mem _ later))
        (fun later => noRun (List.mem_cons_of_mem _ later))]

/-! ## Readings that the matcher takes -/

/-- The pattern stands for the text as the matcher takes it: where a `%` of the pattern meets a `%`
of the text, it stands for this character and nothing else. -/
inductive Takes : (pattern text : List Char) → Prop
  | nil : Takes [] []
  | any (c : Char) {pattern text : List Char} (later : Takes pattern text) :
      Takes ('_' :: pattern) (c :: text)
  /-- A `%` of the text stands for that of the pattern. -/
  | mark {pattern text : List Char} (later : Takes pattern text) :
      Takes ('%' :: pattern) ('%' :: text)
  /-- A run that starts at any other character, or at the end of the text. -/
  | run (skipped : List Char) {pattern text : List Char}
      (noMark : (skipped ++ text).head? ≠ some '%') (later : Takes pattern text) :
      Takes ('%' :: pattern) (skipped ++ text)
  | char {c : Char} (notAny : c ≠ '_') (notRun : c ≠ '%') {pattern text : List Char}
      (later : Takes pattern text) : Takes (c :: pattern) (c :: text)

theorem Takes.reads (takes : Takes pattern text) : Reads pattern text := by
  induction takes with
  | nil => exact .nil
  | any c _ ih => exact .any c ih
  | mark _ ih => exact .run ['%'] ih
  | run skipped _ _ ih => exact .run skipped ih
  | char notAny notRun _ ih => exact .char notAny notRun ih

/-- No run starts at a `%` where the pattern has no runs, or the text no such character. -/
theorem Reads.takes (reads : Reads pattern text) (free : '%' ∉ pattern ∨ '%' ∉ text) :
    Takes pattern text := by
  induction reads with
  | nil => exact .nil
  | any c _ ih =>
      exact .any c (ih (free.imp (mt (List.mem_cons_of_mem _)) (mt (List.mem_cons_of_mem _))))
  | run skipped _ ih =>
      have noMark := free.resolve_left (fun absent => absent List.mem_cons_self)
      refine .run skipped (fun starts => noMark (List.mem_of_mem_head? starts)) (ih (Or.inr ?_))
      exact mt (List.mem_append_right _) noMark
  | char notAny notRun _ ih =>
      exact .char notAny notRun
        (ih (free.imp (mt (List.mem_cons_of_mem _)) (mt (List.mem_cons_of_mem _))))

/-- The pattern is taken for an end of the text. -/
def TakesEnd (pattern text : List Char) : Prop :=
  ∃ rest, rest <:+ text ∧ Takes pattern rest

/-- A character that is the one of the pattern, or meets `_`, is taken for it. -/
theorem takes_cons_of_meets {p c : Char} (meets : p = '_' ∨ p = c) :
    Takes (p :: pattern) (c :: text) ↔ Takes pattern text := by
  constructor
  · intro takes
    generalize whole : c :: text = start at takes
    cases takes with
    | any _ later | mark later | char _ _ later =>
        obtain ⟨-, rfl⟩ := List.cons.inj whole
        exact later
    | run skipped noMark =>
        obtain rfl := meets.resolve_left (by decide)
        rw [← whole] at noMark
        exact absurd rfl noMark
  · intro later
    by_cases isAny : p = '_'
    · exact isAny ▸ .any c later
    · obtain rfl := meets.resolve_left isAny
      by_cases isRun : p = '%'
      · exact isRun ▸ .mark later
      · exact .char isAny isRun later

/-- Any other character is only taken where a run starts. -/
theorem takes_cons_of_differs {p c : Char} (differs : ¬(p = '_' ∨ p = c)) :
    Takes (p :: pattern) (c :: text) ↔ p = '%' ∧ TakesEnd pattern (c :: text) := by
  obtain ⟨notAny, notSame⟩ := not_or.mp differs
  constructor
  · intro takes
    generalize whole : c :: text = start at takes ⊢
    cases takes with
    | any => exact absurd rfl notAny
    | mark | char => exact absurd (List.cons.inj whole).1.symm notSame
    | run skipped _ later => exact ⟨rfl, _, List.suffix_append skipped _, later⟩
  · rintro ⟨rfl, rest, ⟨skipped, whole⟩, later⟩
    have noMark : (skipped ++ rest).head? ≠ some '%' := by
      rw [whole]
      exact fun starts => notSame (Option.some.inj starts).symm
    exact whole ▸ .run skipped noMark later

/-- Characters in front of a pattern are taken for the same characters in front of a text. -/
theorem Takes.self_append (start : List Char) (later : Takes pattern text) :
    Takes (start ++ pattern) (start ++ text) := by
  induction start with
  | nil => exact later
  | cons c start ih => exact (takes_cons_of_meets (Or.inr rfl)).mpr ih

/-- What follows the first character of a pattern is taken for an end of the text. -/
theorem Takes.tail {p : Char} (takes : Takes (p :: pattern) text) : TakesEnd pattern text := by
  cases takes with
  | any c later => exact ⟨_, List.suffix_cons c _, later⟩
  | mark later => exact ⟨_, List.suffix_cons '%' _, later⟩
  | run skipped _ later => exact ⟨_, List.suffix_append skipped _, later⟩
  | char _ _ later => exact ⟨_, List.suffix_cons p _, later⟩

/-! ## The matcher -/

theorem matchesEmpty_eq_true_iff : matchesEmpty pattern = true ↔ Takes pattern [] := by
  induction pattern with
  | nil => exact iff_of_true rfl .nil
  | cons p pattern ih =>
      rw [matchesEmpty, List.all_cons, Bool.and_eq_true, beq_iff_eq, ← matchesEmpty, ih]
      constructor
      · rintro ⟨rfl, later⟩
        exact .run [] nofun later
      · intro takes
        generalize whole : [] = start at takes
        cases takes with
        | run skipped _ later =>
            obtain ⟨rfl, rfl⟩ := List.append_eq_nil_iff.mp whole.symm
            exact ⟨rfl, later⟩
        | any | mark | char => nomatch whole

/-- What an attempt leaves of the pattern is taken for what it leaves of the text. -/
def Attempt.Takes : Attempt → Prop
  | .finished pattern => Like.Takes pattern []
  | .run text pattern => TakesEnd pattern text
  | .mismatch => False

/-- The characters that an attempt takes are taken in no other way. -/
theorem attempt_takes_iff : (attempt text pattern).Takes ↔ Takes pattern text := by
  induction text generalizing pattern with
  | nil => exact Iff.rfl
  | cons c text ih =>
      cases pattern with
      | nil => exact iff_of_false id nofun
      | cons p pattern =>
          simp only [attempt, Bool.or_eq_true, beq_iff_eq]
          split
          next meets => exact ih.trans (takes_cons_of_meets meets).symm
          next differs =>
            rw [takes_cons_of_differs differs]
            split
            next isRun => exact (and_iff_right isRun).symm
            next notRun => exact iff_of_false id fun takes => notRun takes.1

/-- **The first place is as good as any later one.** Where an attempt is no mismatch, the pattern is
taken for the whole text if it is taken for an end of it: character by character, what a later
start leaves of the text is an end of what the first start leaves. -/
theorem TakesEnd.takes (ends : TakesEnd pattern text) (goesOn : attempt text pattern ≠ .mismatch) :
    Takes pattern text := by
  induction text generalizing pattern with
  | nil =>
      obtain ⟨rest, suffix, takes⟩ := ends
      exact List.suffix_nil.mp suffix ▸ takes
  | cons c text ih =>
      cases pattern with
      | nil => exact absurd rfl goesOn
      | cons p pattern =>
          obtain ⟨rest, suffix, takes⟩ := ends
          rcases List.suffix_cons_iff.mp suffix with rfl | later
          · exact takes
          · obtain ⟨left, inRest, taken⟩ := takes.tail
            have ends : TakesEnd pattern text := ⟨left, inRest.trans later, taken⟩
            simp only [attempt, Bool.or_eq_true, beq_iff_eq] at goesOn
            split at goesOn
            next meets => exact (takes_cons_of_meets meets).mpr (ih ends goesOn)
            next differs =>
              split at goesOn
              next isRun =>
                exact (takes_cons_of_differs differs).mpr
                  ⟨isRun, left, inRest.trans suffix, taken⟩
              next => exact absurd rfl goesOn

theorem takesEnd_iff (goesOn : attempt text pattern ≠ .mismatch) :
    TakesEnd pattern text ↔ (attempt text pattern).Takes :=
  ⟨fun ends => attempt_takes_iff.mpr (ends.takes goesOn),
    fun takes => ⟨text, List.suffix_rfl, attempt_takes_iff.mp takes⟩⟩

/-- A run finds a text iff what follows it is taken for an end of the text. -/
theorem matchRun_eq_true_iff : matchRun pattern text = true ↔ TakesEnd pattern text := by
  fun_induction matchRun pattern text with
  | case1 pattern text rest attempted =>
      rw [takesEnd_iff (by simp [attempted]), attempted, matchesEmpty_eq_true_iff]
      exact Iff.rfl
  | case2 pattern text text' pattern' attempted ih =>
      rw [takesEnd_iff (by simp [attempted]), attempted, ih]
      exact Iff.rfl
  | case3 => contradiction
  | case4 pattern c shorter attempted ih =>
      rw [ih]
      constructor
      · rintro ⟨rest, suffix, takes⟩
        exact ⟨rest, suffix.trans (List.suffix_cons c shorter), takes⟩
      · rintro ⟨rest, suffix, takes⟩
        rcases List.suffix_cons_iff.mp suffix with rfl | later
        · have left := attempt_takes_iff.mpr takes
          rw [attempted] at left
          exact left.elim
        · exact ⟨rest, later, takes⟩

/-- **What the matcher finds.** -/
theorem matchChars_eq_true_iff : matchChars text pattern = true ↔ Takes pattern text := by
  rw [matchChars, ← attempt_takes_iff]
  split
  next rest attempted => rw [attempted, matchesEmpty_eq_true_iff]; exact Iff.rfl
  next text' pattern' attempted => rw [attempted, matchRun_eq_true_iff]; exact Iff.rfl
  next attempted => rw [attempted]; exact iff_of_false nofun id

/-- A match is a reading. -/
theorem reads_of_matchChars (matched : matchChars text pattern = true) : Reads pattern text :=
  (matchChars_eq_true_iff.mp matched).reads

/-- A reading is a match, unless both the pattern and the text have a `%`. -/
theorem matchChars_of_reads (reads : Reads pattern text) (free : '%' ∉ pattern ∨ '%' ∉ text) :
    matchChars text pattern = true :=
  matchChars_eq_true_iff.mpr (reads.takes free)

end Keyset.Like
