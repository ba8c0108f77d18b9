import Keyset.Proofs.Order.Grammar
import Keyset.Proofs.Text.Run

/-! # Orders are read by their grammar

Every reader takes what the grammar writes, if the rest does not go on with it, and takes nothing
else. So a text reads as an order iff it has a reading, between its blanks, that says this order;
it has one reading at most, and the text of an order is a reading of that order
(`Keyset.Order.parse_eq_ok_iff`).
-/

namespace Keyset.Order

open Text (isGap skipGaps takeWhile_run dropWhile_run dropWhile_of_head?)

variable {name mark comma rest source : List Char}

theorem trimChars_of_ends (starts : ∀ c ∈ source.head?, Text.isBlank c = false)
    (stops : ∀ c ∈ source.getLast?, Text.isBlank c = false) : Text.trimChars source = source := by
  rw [← List.head?_reverse] at stops
  rw [Text.trimChars, Text.trimStart, dropWhile_of_head? starts, Text.trimEnd,
    dropWhile_of_head? stops, List.reverse_reverse]

theorem skipGaps_append {gaps : List Char} (inside : ∀ c ∈ gaps, isGap c) (rest : List Char) :
    skipGaps (gaps ++ rest) = skipGaps rest :=
  List.dropWhile_append_of_pos inside

theorem skipGaps_cons {c : Char} (notGap : isGap c = false) (rest : List Char) :
    skipGaps (c :: rest) = c :: rest :=
  List.dropWhile_cons_of_neg (by rw [notGap]; decide)

theorem exists_gaps (source : List Char) :
    ∃ gaps, (∀ c ∈ gaps, isGap c) ∧ source = gaps ++ skipGaps source :=
  ⟨source.takeWhile isGap, fun _ inside => List.mem_takeWhile_imp inside,
    List.takeWhile_append_dropWhile.symm⟩

/-- After gaps the text goes on with a comma or ends, so that it is no part of a level. -/
def EndsLevel (rest : List Char) : Prop :=
  ∀ c ∈ (skipGaps rest).head?, c = ','

theorem endsLevel_nil : EndsLevel [] :=
  nofun

theorem endsLevel_comma (isComma : IsComma comma) (more : List Char) :
    EndsLevel (comma ++ more) := by
  obtain ⟨before, after, gapsBefore, -⟩ := isComma
  rw [EndsLevel, List.append_assoc, skipGaps_append gapsBefore, List.cons_append,
    skipGaps_cons rfl]
  rintro c ⟨⟩
  rfl

theorem EndsLevel.stops (ends : EndsLevel rest) : ∀ c ∈ rest.head?, isFieldChar c = false := by
  intro c first
  cases rest with
  | nil => cases first
  | cons d more =>
      obtain rfl := Option.some.inj first
      by_cases gap : isGap d
      · exact not_isFieldChar_of_isGap gap
      · rw [EndsLevel, skipGaps_cons (Bool.eq_false_iff.mpr gap)] at ends
        rw [ends d rfl]
        rfl

/-! ## Fields and directions -/

theorem readField?_append (named : IsName name) (stops : ∀ c ∈ rest.head?, isFieldChar c = false) :
    readField? (name ++ rest) = some (String.ofList name, rest) := by
  obtain ⟨c, more, rfl, -⟩ := named.exists_cons
  rw [readField?, takeWhile_run named.2 stops, dropWhile_run named.2 stops]

theorem exists_of_readField? {field : String} (read : readField? source = some (field, rest)) :
    ∃ name, IsName name ∧ field = String.ofList name ∧ source = name ++ rest := by
  have parts := List.takeWhile_append_dropWhile (p := isFieldChar) (l := source)
  unfold readField? at read
  split at read
  next => cases read
  next some =>
    cases read
    exact ⟨_, ⟨some, fun c inside => List.mem_takeWhile_imp inside⟩, rfl, parts.symm⟩

theorem readDirection?_append (direction : Direction) (rest : List Char) :
    readDirection? (direction.name.toList ++ rest) = some (direction, rest) := by
  cases direction <;> rfl

theorem eq_of_readDirection? {direction : Direction}
    (read : readDirection? source = some (direction, rest)) :
    source = direction.name.toList ++ rest := by
  unfold readDirection? at read
  split at read
  · cases read
    rfl
  · cases read
    rfl
  · cases read

/-- A direction starts with a letter, so gaps before it end there. -/
theorem skipGaps_direction (direction : Direction) (rest : List Char) :
    skipGaps (direction.name.toList ++ rest) = direction.name.toList ++ rest := by
  cases direction <;> exact skipGaps_cons rfl _

theorem readMarkedDirection?_append (isMark : IsMark mark) (direction : Direction)
    (rest : List Char) :
    readMarkedDirection? (mark ++ (direction.name.toList ++ rest)) = some (direction, rest) := by
  obtain ⟨before, after, gapsBefore, gapsAfter⟩ | ⟨_, some, spaces⟩ := isMark
  · have skipped : skipGaps (before ++ '|' :: after ++ (direction.name.toList ++ rest)) =
        '|' :: (after ++ (direction.name.toList ++ rest)) := by
      rw [List.append_assoc, skipGaps_append gapsBefore, List.cons_append, skipGaps_cons rfl]
    unfold readMarkedDirection?
    rw [skipped]
    change readDirection? (skipGaps (after ++ (direction.name.toList ++ rest))) = _
    rw [skipGaps_append gapsAfter, skipGaps_direction, readDirection?_append]
  · have gaps : ∀ c ∈ mark, isGap c := fun c inside => isGap_of_isSpacing (spaces c inside)
    have dropped : (mark ++ (direction.name.toList ++ rest)).dropWhile isSpacing =
        direction.name.toList ++ rest := by
      apply dropWhile_run spaces
      cases direction <;> rintro c ⟨⟩ <;> rfl
    have found := readDirection?_append direction rest
    obtain ⟨c, more, rfl⟩ := List.exists_cons_of_ne_nil some
    unfold readMarkedDirection?
    rw [skipGaps_append gaps, skipGaps_direction, dropped, found, List.cons_append]
    dsimp only
    rw [if_pos (spaces c List.mem_cons_self)]
    cases direction <;> rfl

theorem exists_of_readMarkedDirection? {direction : Direction}
    (read : readMarkedDirection? source = some (direction, rest)) :
    ∃ mark, IsMark mark ∧ source = mark ++ (direction.name.toList ++ rest) := by
  unfold readMarkedDirection? at read
  split at read
  next afterBar skipped =>
    obtain ⟨before, gapsBefore, parts⟩ := exists_gaps source
    obtain ⟨after, gapsAfter, partsAfter⟩ := exists_gaps afterBar
    refine ⟨before ++ '|' :: after, .bar before after gapsBefore gapsAfter, ?_⟩
    rw [List.append_assoc, List.cons_append, ← eq_of_readDirection? read, ← partsAfter, ← skipped]
    exact parts
  next =>
    split at read
    next _ c more _ =>
      split at read
      next space =>
        have parts := List.takeWhile_append_dropWhile (p := isSpacing) (l := c :: more)
        refine ⟨(c :: more).takeWhile isSpacing, .spacing _ ?_ ?_, ?_⟩
        · rw [List.takeWhile_cons_of_pos space]
          exact List.cons_ne_nil _ _
        · exact fun d inside => List.mem_takeWhile_imp inside
        · rw [← eq_of_readDirection? read]
          exact parts.symm
      next => cases read
    next => cases read

/-- A rest that ends a level has no direction for it. -/
theorem readMarkedDirection?_of_endsLevel (ends : EndsLevel rest) :
    readMarkedDirection? rest = none := by
  rw [Option.eq_none_iff_forall_ne_some]
  rintro ⟨direction, more⟩ read
  obtain ⟨mark, isMark, rfl⟩ := exists_of_readMarkedDirection? read
  obtain ⟨before, after, gapsBefore, -⟩ | ⟨_, -, spaces⟩ := isMark
  · rw [EndsLevel, List.append_assoc, skipGaps_append gapsBefore, List.cons_append,
      skipGaps_cons rfl] at ends
    exact absurd (ends '|' rfl) (by decide)
  · rw [EndsLevel, skipGaps_append fun c inside => isGap_of_isSpacing (spaces c inside),
      skipGaps_direction] at ends
    cases direction
    · exact absurd (ends 'A' rfl) (by decide)
    · exact absurd (ends 'D' rfl) (by decide)

/-! ## Levels -/

section Levels

variable {spelling : Spelling} {entry : OrderEntry}

theorem IsMark.stops (isMark : IsMark mark) (rest : List Char) :
    ∀ c ∈ (mark ++ rest).head?, isFieldChar c = false := by
  obtain ⟨before, after, gapsBefore, -⟩ | ⟨_, some, spaces⟩ := isMark
  · cases before with
    | nil =>
        rintro c ⟨⟩
        rfl
    | cons d more =>
        rintro c ⟨⟩
        exact not_isFieldChar_of_isGap (gapsBefore d List.mem_cons_self)
  · obtain ⟨d, more, rfl⟩ := List.exists_cons_of_ne_nil some
    rintro c ⟨⟩
    exact not_isFieldChar_of_isGap (isGap_of_isSpacing (spaces d List.mem_cons_self))

theorem IsName.ne_of_cons {c d : Char} {more : List Char} (named : IsName name)
    (outside : isFieldChar d = false) (same : name ++ rest = c :: more) : c ≠ d := by
  obtain ⟨e, others, rfl, inside⟩ := named.exists_cons
  obtain rfl := (List.cons.inj same).1
  rintro rfl
  rw [outside] at inside
  cases inside

theorem readLevel?_rising (named : IsName name) (rest : List Char) :
    readLevel? ('^' :: (name ++ rest)) =
      (readField? (name ++ rest)).map fun (field, rest) => (⟨field, .asc⟩, rest) := by
  unfold readLevel?
  split
  next same => exact absurd rfl (IsName.ne_of_cons named rfl (List.cons.inj same).2)
  next same =>
    obtain ⟨-, rfl⟩ := List.cons.inj same
    rfl
  next noCaret => exact absurd rfl (noCaret _)

/-- A field that no `^` stands before may have its direction after it. -/
theorem readLevel?_name (named : IsName name) (rest : List Char) :
    readLevel? (name ++ rest) = (readField? (name ++ rest)).map fun (field, rest) =>
      match readMarkedDirection? rest with
      | some (direction, rest) => (⟨field, direction⟩, rest)
      | none => (⟨field, .asc⟩, rest) := by
  unfold readLevel?
  split
  next same => exact absurd rfl (IsName.ne_of_cons named rfl same)
  next same => exact absurd rfl (IsName.ne_of_cons named rfl same)
  next => rfl

/-- A level with its direction is read as it stands, whatever follows. -/
theorem readLevel?_directed (named : IsName name) (isMark : IsMark mark) (direction : Direction)
    (rest : List Char) :
    readLevel? ((Spelling.directed name mark direction).chars ++ rest) =
      some (⟨String.ofList name, direction⟩, rest) := by
  rw [Spelling.chars, List.append_assoc, List.append_assoc, readLevel?_name named,
    readField?_append named (isMark.stops _), Option.map_some]
  dsimp only
  rw [readMarkedDirection?_append isMark]

theorem readLevel?_append (sound : spelling.IsSound) (ends : EndsLevel rest) :
    readLevel? (spelling.chars ++ rest) = some (spelling.level, rest) := by
  have alone : ∀ {field}, IsName field → readField? (field ++ rest) =
      some (String.ofList field, rest) := fun named => readField?_append named ends.stops
  cases spelling with
  | rising field =>
      change readLevel? ('^' :: (field ++ rest)) = _
      rw [readLevel?_rising sound, alone sound]
      rfl
  | falling field =>
      change (readField? (field ++ rest)).map _ = _
      rw [alone sound]
      rfl
  | bare field =>
      rw [Spelling.chars, readLevel?_name sound, alone sound, Option.map_some]
      dsimp only
      rw [readMarkedDirection?_of_endsLevel ends]
      rfl
  | directed field mark direction => exact readLevel?_directed sound.1 sound.2 direction rest

theorem exists_of_readLevel? (read : readLevel? source = some (entry, rest)) :
    ∃ spelling : Spelling, spelling.IsSound ∧ spelling.level = entry ∧
      source = spelling.chars ++ rest := by
  unfold readLevel? at read
  split at read
  · obtain ⟨⟨field, after⟩, readField, same⟩ := Option.map_eq_some_iff.mp read
    obtain ⟨name, named, rfl, rfl⟩ := exists_of_readField? readField
    cases same
    exact ⟨.falling name, named, rfl, rfl⟩
  · obtain ⟨⟨field, after⟩, readField, same⟩ := Option.map_eq_some_iff.mp read
    obtain ⟨name, named, rfl, rfl⟩ := exists_of_readField? readField
    cases same
    exact ⟨.rising name, named, rfl, rfl⟩
  · obtain ⟨⟨field, after⟩, readField, same⟩ := Option.map_eq_some_iff.mp read
    obtain ⟨name, named, rfl, rfl⟩ := exists_of_readField? readField
    dsimp only at same
    split at same
    next direction afterDirection marked =>
      obtain ⟨mark, isMark, rfl⟩ := exists_of_readMarkedDirection? marked
      cases same
      refine ⟨.directed name mark direction, ⟨named, isMark⟩, rfl, ?_⟩
      rw [Spelling.chars, List.append_assoc, List.append_assoc]
    next =>
      cases same
      exact ⟨.bare name, named, rfl, rfl⟩

/-- No level starts with a gap. -/
theorem Spelling.IsSound.skipGaps_chars (sound : spelling.IsSound) (rest : List Char) :
    skipGaps (spelling.chars ++ rest) = spelling.chars ++ rest := by
  have named : ∀ {field}, IsName field → ∀ more, skipGaps (field ++ more) = field ++ more := by
    intro field named more
    obtain ⟨c, others, rfl, inside⟩ := named.exists_cons
    apply skipGaps_cons
    by_contra gap
    rw [Bool.not_eq_false] at gap
    rw [not_isFieldChar_of_isGap gap] at inside
    cases inside
  cases spelling with
  | rising field => exact skipGaps_cons rfl _
  | falling field => exact skipGaps_cons rfl _
  | bare field => exact named sound rest
  | directed field mark direction =>
      rw [Spelling.chars, List.append_assoc]
      exact named sound.1 _

end Levels

/-! ## Further levels -/

section Further

variable {spelling : Spelling} {entry : OrderEntry} {further others : List (List Char × Spelling)}

theorem readNext?_comma (isComma : IsComma comma) (sound : spelling.IsSound) (rest : List Char) :
    readNext? (comma ++ (spelling.chars ++ rest)) = readLevel? (spelling.chars ++ rest) := by
  obtain ⟨before, after, gapsBefore, gapsAfter⟩ := isComma
  have skipped : skipGaps (before ++ ',' :: after ++ (spelling.chars ++ rest)) =
      ',' :: (after ++ (spelling.chars ++ rest)) := by
    rw [List.append_assoc, skipGaps_append gapsBefore, List.cons_append, skipGaps_cons rfl]
  unfold readNext?
  rw [skipped]
  change readLevel? (skipGaps (after ++ (spelling.chars ++ rest))) = _
  rw [skipGaps_append gapsAfter, sound.skipGaps_chars]

theorem readNext?_append (isComma : IsComma comma) (sound : spelling.IsSound)
    (ends : EndsLevel rest) :
    readNext? (comma ++ (spelling.chars ++ rest)) = some (spelling.level, rest) :=
  (readNext?_comma isComma sound rest).trans (readLevel?_append sound ends)

theorem exists_of_readNext? (read : readNext? source = some (entry, rest)) :
    ∃ comma, IsComma comma ∧ ∃ spelling : Spelling, spelling.IsSound ∧ spelling.level = entry ∧
      source = comma ++ (spelling.chars ++ rest) := by
  unfold readNext? at read
  split at read
  next afterComma skipped =>
    obtain ⟨spelling, sound, level, parts⟩ := exists_of_readLevel? read
    obtain ⟨before, gapsBefore, partsBefore⟩ := exists_gaps source
    obtain ⟨after, gapsAfter, partsAfter⟩ := exists_gaps afterComma
    refine ⟨before ++ ',' :: after, .around before after gapsBefore gapsAfter, spelling, sound,
      level, ?_⟩
    rw [List.append_assoc, List.cons_append, ← parts, ← partsAfter, ← skipped]
    exact partsBefore
  next => cases read

theorem readMore_of_some (read : readNext? source = some (entry, rest)) :
    readMore source = (entry :: (readMore rest).1, (readMore rest).2) := by
  rw [readMore]
  split
  next none =>
    rw [read] at none
    cases none
  next found =>
    rw [read] at found
    cases found
    rfl

theorem readMore_of_none (none : readNext? source = none) : readMore source = ([], source) := by
  rw [readMore]
  split
  next => rfl
  next found =>
    rw [none] at found
    cases found

theorem endsLevel_further (sound : Reading.FurtherSound further) :
    EndsLevel (Reading.furtherChars further) := by
  cases further with
  | nil => exact endsLevel_nil
  | cons next further =>
      rw [Reading.furtherChars_cons]
      exact endsLevel_comma (sound next List.mem_cons_self).1 _

theorem readMore_furtherChars (sound : Reading.FurtherSound further) :
    readMore (Reading.furtherChars further) = (further.map fun next => next.2.level, []) := by
  induction further with
  | nil => exact readMore_of_none rfl
  | cons next further ih =>
      obtain ⟨here, later⟩ := List.forall_mem_cons.mp sound
      rw [Reading.furtherChars_cons,
        readMore_of_some (readNext?_append here.1 here.2 (endsLevel_further later)), ih later]
      rfl

theorem exists_of_readMore (source : List Char) :
    ∃ further, Reading.FurtherSound further ∧
      (further.map fun next => next.2.level) = (readMore source).1 ∧
      source = Reading.furtherChars further ++ (readMore source).2 := by
  induction source using readMore.induct with
  | case1 source none =>
      have ended := readMore_of_none none
      exact ⟨[], nofun, by rw [ended]; rfl, by rw [ended]; rfl⟩
  | case2 source entry rest read ih =>
      obtain ⟨further, sound, levels, parts⟩ := ih
      obtain ⟨comma, isComma, spelling, isSound, level, rfl⟩ := exists_of_readNext? read
      refine ⟨(comma, spelling) :: further, ?_, ?_, ?_⟩
      · exact List.forall_mem_cons.mpr ⟨⟨isComma, isSound⟩, sound⟩
      · rw [readMore_of_some read, List.map_cons, levels, level]
      · rw [readMore_of_some read, Reading.furtherChars_cons, List.append_assoc, List.append_assoc,
          ← parts]

end Further

/-! ## One reading at most -/

section Unique

variable {first second : Spelling}

/-- Spellings that say the same with the same characters are the same. -/
theorem Spelling.eq_of_level_eq (sound : first.IsSound) (alsoSound : second.IsSound)
    (levels : first.level = second.level) (same : first.chars = second.chars) : first = second := by
  have noCaret : ∀ {field more others}, IsName field → field ++ more ≠ '^' :: others :=
    fun named same => IsName.ne_of_cons named rfl same rfl
  obtain ⟨fields, directions⟩ := OrderEntry.mk.inj levels
  cases first with
  | rising field =>
      cases second with
      | rising other => exact congrArg rising (List.cons.inj same).2
      | falling other => cases directions
      | bare other => exact absurd same.symm (List.append_nil other ▸ noCaret alsoSound)
      | directed other mark direction => exact absurd same.symm (noCaret alsoSound.1)
  | falling field =>
      cases second with
      | rising other => cases directions
      | falling other => exact congrArg falling (List.cons.inj (List.cons.inj same).2).2
      | bare other => cases directions
      | directed other mark direction => exact absurd same.symm (noCaret alsoSound.1)
  | bare field =>
      cases second with
      | rising other => exact absurd same (List.append_nil field ▸ noCaret sound)
      | falling other => cases directions
      | bare other => exact congrArg bare same
      | directed other mark direction =>
          obtain rfl := String.ofList_injective fields
          have ends := List.append_cancel_left ((List.append_nil field).trans same)
          cases direction <;>
            exact absurd ends.symm (List.append_ne_nil_of_right_ne_nil _ (by decide))
  | directed field mark direction =>
      cases second with
      | rising other => exact absurd same (noCaret sound.1)
      | falling other => exact absurd same (noCaret sound.1)
      | bare other =>
          obtain rfl := String.ofList_injective fields
          have ends := List.append_cancel_left (same.trans (List.append_nil field).symm)
          cases direction <;> exact absurd ends (List.append_ne_nil_of_right_ne_nil _ (by decide))
      | directed other otherMark otherDirection =>
          obtain rfl := String.ofList_injective fields
          obtain rfl : direction = otherDirection := directions
          obtain rfl := List.append_cancel_right (List.append_cancel_left same)
          rfl

/-- The reader takes a spelling back, so that spellings with rests are told apart. -/
theorem Spelling.eq_of_append {others : List Char} (sound : first.IsSound)
    (alsoSound : second.IsSound) (ends : EndsLevel rest) (alsoEnds : EndsLevel others)
    (same : first.chars ++ rest = second.chars ++ others) : first = second ∧ rest = others := by
  have read := readLevel?_append sound ends
  rw [same, readLevel?_append alsoSound alsoEnds] at read
  obtain ⟨levels, rests⟩ := Prod.mk.inj (Option.some.inj read)
  subst rests
  have chars := List.append_cancel_right same
  exact ⟨Spelling.eq_of_level_eq sound alsoSound levels.symm chars, rfl⟩

/-- What follows a comma and its gaps. -/
theorem skipGaps_tail_comma (isComma : IsComma comma) (sound : first.IsSound) (rest : List Char) :
    skipGaps (skipGaps (comma ++ (first.chars ++ rest))).tail = first.chars ++ rest := by
  obtain ⟨before, after, gapsBefore, gapsAfter⟩ := isComma
  rw [List.append_assoc, skipGaps_append gapsBefore, List.cons_append, skipGaps_cons rfl,
    List.tail_cons, skipGaps_append gapsAfter, sound.skipGaps_chars]

theorem eq_of_furtherChars {further others : List (List Char × Spelling)}
    (sound : Reading.FurtherSound further) (alsoSound : Reading.FurtherSound others)
    (same : Reading.furtherChars further = Reading.furtherChars others) : further = others := by
  have noComma : ∀ {comma more}, IsComma comma → comma ++ more ≠ [] := by
    rintro _ more ⟨before, after, -, -⟩
    simp
  induction further generalizing others with
  | nil =>
      cases others with
      | nil => rfl
      | cons next others =>
          rw [Reading.furtherChars_cons] at same
          exact absurd same.symm (noComma (alsoSound next List.mem_cons_self).1)
  | cons next further ih =>
      obtain ⟨⟨isComma, isSound⟩, later⟩ := List.forall_mem_cons.mp sound
      cases others with
      | nil =>
          rw [Reading.furtherChars_cons] at same
          exact absurd same (noComma isComma)
      | cons other others =>
          obtain ⟨⟨alsoComma, alsoHere⟩, alsoLater⟩ := List.forall_mem_cons.mp alsoSound
          rw [Reading.furtherChars_cons, Reading.furtherChars_cons] at same
          have after := skipGaps_tail_comma isComma isSound (Reading.furtherChars further)
          rw [same, skipGaps_tail_comma alsoComma alsoHere] at after
          obtain ⟨spellings, rests⟩ := Spelling.eq_of_append isSound alsoHere
            (endsLevel_further later) (endsLevel_further alsoLater) after.symm
          rw [rests, spellings] at same
          rw [ih later alsoLater rests, Prod.ext (List.append_cancel_right same) spellings]

theorem Reading.eq_of_chars {reading other : Reading} (sound : reading.IsSound)
    (alsoSound : other.IsSound) (same : reading.chars = other.chars) : reading = other := by
  obtain ⟨first, further⟩ := reading
  obtain ⟨otherFirst, otherFurther⟩ := other
  obtain ⟨rfl, rests⟩ := Spelling.eq_of_append sound.first alsoSound.first
    (endsLevel_further sound.further) (endsLevel_further alsoSound.further) same
  obtain rfl : further = otherFurther :=
    eq_of_furtherChars sound.further alsoSound.further rests
  rfl

end Unique

/-! ## Whole texts -/

theorem readPrefix?_chars {reading : Reading} (sound : reading.IsSound) :
    readPrefix? reading.chars = some (reading.order, []) := by
  rw [readPrefix?, Reading.chars,
    readLevel?_append sound.first (endsLevel_further sound.further), Option.map_some]
  change some (_ :: (readMore (Reading.furtherChars reading.further)).1, _) = _
  rw [readMore_furtherChars sound.further]
  rfl

theorem exists_of_readPrefix? {order : Order} (read : readPrefix? source = some (order, rest)) :
    ∃ reading : Reading, reading.IsSound ∧ reading.order = order ∧
      source = reading.chars ++ rest := by
  obtain ⟨⟨entry, after⟩, readLevel, same⟩ := Option.map_eq_some_iff.mp read
  obtain ⟨spelling, sound, rfl, rfl⟩ := exists_of_readLevel? readLevel
  obtain ⟨further, furtherSound, levels, parts⟩ := exists_of_readMore after
  cases same
  refine ⟨⟨spelling, further⟩, ⟨sound, furtherSound⟩, ?_, ?_⟩
  · rw [Reading.order, levels]
  · rw [Reading.chars, List.append_assoc, ← parts]

theorem parse_eq_ok {input : String} {order : Order} :
    parse input = .ok order ↔ readPrefix? (Text.trimChars input.toList) = some (order, []) :=
  ParseError.whole_eq_ok_iff

/-! ## The text of an order -/

section Written

variable {entry : OrderEntry} {further : Order}

/-- A level as its text has it. -/
def written (entry : OrderEntry) : Spelling :=
  .directed entry.field.toList [' '] entry.direction

/-- An order as its text has it. -/
def writtenAll (entry : OrderEntry) (further : Order) : Reading :=
  ⟨written entry, further.map fun next => ([',', ' '], written next)⟩

theorem level_written (entry : OrderEntry) : (written entry).level = entry := by
  rw [written, Spelling.level, String.ofList_toList]

theorem order_writtenAll (entry : OrderEntry) (further : Order) :
    (writtenAll entry further).order = entry :: further := by
  rw [writtenAll, Reading.order, level_written, List.map_map]
  congr 1
  exact (List.map_congr_left fun next _ => level_written next).trans (List.map_id further)

theorem chars_written (entry : OrderEntry) : (written entry).chars = entry.text.toList := by
  rw [written, Spelling.chars, OrderEntry.text, String.toList_append, String.toList_append,
    List.append_assoc]
  rfl

theorem chars_writtenAll (entry : OrderEntry) (further : Order) :
    (writtenAll entry further).chars = (text (entry :: further)).toList := by
  induction further generalizing entry with
  | nil =>
      rw [text, List.map_singleton, String.intercalate_singleton, ← chars_written]
      exact List.append_nil _
  | cons next further ih =>
      rw [text, List.map_cons, List.map_cons, String.intercalate_cons_cons, String.toList_append,
        String.toList_append, ← chars_written, List.append_assoc, ← List.map_cons]
      exact congrArg (fun more => (written entry).chars ++ ([',', ' '] ++ more)) (ih next)

theorem written_isSound (named : IsName entry.field.toList) : (written entry).IsSound :=
  ⟨named, .spacing [' '] (List.cons_ne_nil _ _) (List.all_eq_true.mp rfl)⟩

theorem writtenAll_isSound (named : ∀ next ∈ entry :: further, IsName next.field.toList) :
    (writtenAll entry further).IsSound := by
  obtain ⟨here, later⟩ := List.forall_mem_cons.mp named
  refine ⟨written_isSound here, fun next inside => ?_⟩
  obtain ⟨level, isLevel, rfl⟩ := List.mem_map.mp inside
  exact ⟨.around [] [' '] (List.forall_mem_nil _) (List.all_eq_true.mp rfl),
    written_isSound (later level isLevel)⟩

theorem exists_of_chars_writtenAll (entry : OrderEntry) (further : Order) :
    ∃ front, ∃ direction : Direction,
      (writtenAll entry further).chars = front ++ direction.name.toList := by
  induction further generalizing entry with
  | nil =>
      refine ⟨entry.field.toList ++ [' '], entry.direction, ?_⟩
      rw [List.append_assoc]
      exact List.append_nil _
  | cons next further ih =>
      obtain ⟨front, direction, ends⟩ := ih next
      refine ⟨(written entry).chars ++ ([',', ' '] ++ front), direction, ?_⟩
      rw [List.append_assoc, List.append_assoc, ← ends]
      rfl

/-- Names have no blanks and directions have none, so there is nothing to trim. -/
theorem trimChars_text (named : ∀ next ∈ entry :: further, IsName next.field.toList) :
    Text.trimChars (text (entry :: further)).toList = (text (entry :: further)).toList := by
  rw [← chars_writtenAll]
  apply trimChars_of_ends
  · obtain ⟨c, rest, field, inside⟩ := (named entry List.mem_cons_self).exists_cons
    have starts : (writtenAll entry further).chars.head? = some c := by
      rw [Reading.chars, writtenAll, written, Spelling.chars, field]
      rfl
    rintro d first
    obtain rfl := Option.some.inj (starts.symm.trans first)
    by_contra blank
    rw [Bool.not_eq_false] at blank
    rw [not_isFieldChar_of_isBlank blank] at inside
    cases inside
  · obtain ⟨front, direction, ends⟩ := exists_of_chars_writtenAll entry further
    rw [ends, List.getLast?_append]
    cases direction <;> rintro c ⟨⟩ <;> rfl

end Written

/-- A text reads as an order iff, without the blanks around it, it has a reading that says this
order. No text has two readings, and the text of an order of names reads as the order. -/
theorem parse_eq_ok_iff :
    (∀ (input : String) (order : Order), parse input = .ok order ↔
      ∃ reading : Reading, reading.IsSound ∧ reading.chars = Text.trimChars input.toList ∧
        reading.order = order) ∧
    (∀ reading other : Reading, reading.IsSound → other.IsSound → reading.chars = other.chars →
      reading = other) ∧
    ∀ order : Order, order ≠ [] → (∀ entry ∈ order, IsName entry.field.toList) →
      parse (text order) = .ok order := by
  refine ⟨fun input order => ?_, fun reading other => Reading.eq_of_chars, ?_⟩
  · rw [parse_eq_ok]
    constructor
    · intro read
      obtain ⟨reading, sound, isOrder, chars⟩ := exists_of_readPrefix? read
      exact ⟨reading, sound, (chars.trans (List.append_nil _)).symm, isOrder⟩
    · rintro ⟨reading, sound, chars, rfl⟩
      rw [← chars, readPrefix?_chars sound]
  · intro order some named
    obtain ⟨entry, further, rfl⟩ := List.exists_cons_of_ne_nil some
    rw [parse_eq_ok, trimChars_text named, ← chars_writtenAll,
      readPrefix?_chars (writtenAll_isSound named), order_writtenAll]

/-- Every kind of level, and spaces wherever they may stand. -/
theorem parse_eq_ok_iff_spaced :
    parse "\u3000name\t|\nDESC , ^!created_at,\r^a.b,sc  ASC, id\n" =
        .ok [⟨"name", .desc⟩, ⟨"created_at", .desc⟩, ⟨"a.b", .asc⟩, ⟨"sc", .asc⟩, ⟨"id", .asc⟩] ∧
      parse (text [⟨"name", .desc⟩, ⟨"id", .asc⟩]) = .ok [⟨"name", .desc⟩, ⟨"id", .asc⟩] := by
  refine ⟨(parse_eq_ok_iff.1 _ _).mpr ⟨⟨.directed "name".toList "\t|\n".toList .desc,
    [(" , ".toList, .falling "created_at".toList), (",\r".toList, .rising "a.b".toList),
      (",".toList, .directed "sc".toList "  ".toList .asc), (", ".toList, .bare "id".toList)]⟩,
    ⟨?_, ?_⟩, ?_, ?_⟩, parse_eq_ok_iff.2.2 _ (List.cons_ne_nil _ _) ?_⟩
  · exact ⟨⟨by decide, List.all_eq_true.mp rfl⟩,
      .bar ['\t'] ['\n'] (List.all_eq_true.mp rfl) (List.all_eq_true.mp rfl)⟩
  · simp only [Reading.FurtherSound, List.forall_mem_cons]
    refine ⟨⟨?_, by decide, List.all_eq_true.mp rfl⟩, ⟨?_, by decide, List.all_eq_true.mp rfl⟩,
      ⟨?_, ⟨by decide, List.all_eq_true.mp rfl⟩, ?_⟩,
      ⟨?_, by decide, List.all_eq_true.mp rfl⟩, nofun⟩
    · exact .around [' '] [' '] (List.all_eq_true.mp rfl) (List.all_eq_true.mp rfl)
    · exact .around [] ['\r'] (List.forall_mem_nil _) (List.all_eq_true.mp rfl)
    · exact .around [] [] (List.forall_mem_nil _) (List.forall_mem_nil _)
    · exact .spacing [' ', ' '] (List.cons_ne_nil _ _) (List.all_eq_true.mp rfl)
    · exact .around [] [' '] (List.forall_mem_nil _) (List.all_eq_true.mp rfl)
  · decide +kernel
  · rfl
  · simp only [List.forall_mem_cons]
    exact ⟨⟨by decide, List.all_eq_true.mp rfl⟩, ⟨by decide, List.all_eq_true.mp rfl⟩, nofun⟩

end Keyset.Order
