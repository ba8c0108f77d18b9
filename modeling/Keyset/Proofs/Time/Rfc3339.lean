import Keyset.Proofs.Json.Literal
import Keyset.Proofs.Text.Run
import Keyset.Proofs.Time.Calendar
import Keyset.Time.Rfc3339

/-! # Instants read back from their texts

Every part of the text of an instant is read as what it was written for, whatever follows
(`Keyset.Time.takeDate_dateChars`, `Keyset.Time.takeTime_timeChars`). Only the second 60 says that
it is a leap second. A leap second within a minute has the text of the second after it
(`Keyset.Time.Instant.chars_readBack`) and is read as that second; every other instant is read back
from its text, with either spelling of the offset (`Keyset.Time.Instant.ofText?_text`).
-/

namespace Keyset

/-! ## Digits -/

namespace Decimal

theorem isDigit_of_mem_padded {width n : Nat} {c : Char} (member : c ∈ padded width n) :
    c.isDigit = true := by
  rcases List.mem_append.mp member with zero | digit
  · obtain rfl := List.eq_of_mem_replicate zero
    rfl
  · exact Json.isDigit_of_mem_toDigits digit

theorem padded_ne_nil (width n : Nat) : padded width n ≠ [] :=
  List.append_ne_nil_of_right_ne_nil _ Nat.toDigits_ne_nil

theorem length_padded {width n : Nat} (positive : 0 < width) (fits : n < tenTo width) :
    (padded width n).length = width := by
  have atMost : (Nat.toDigits 10 n).length ≤ width :=
    (Nat.length_toDigits_le_iff (by decide) positive).mpr fits
  rw [padded, List.length_append, List.length_replicate]
  exact Nat.sub_add_cancel atMost

/-- Zeros in front do not count. -/
theorem digitsValue_padded (width n : Nat) : digitsValue (padded width n) = n := by
  have zeros : ∀ count : Nat, (List.replicate count '0').foldl
      (fun n c => n * 10 + digitValue c) 0 = 0 := by
    intro count
    induction count with
    | zero => rfl
    | succ count ih => exact ih
  rw [padded, digitsValue, List.foldl_append, zeros]
  exact Json.digitsValue_toDigits n

end Decimal

namespace Time

open Decimal

variable {rest : List Char} {offset : ZeroOffset}

/-- The text does not go on with a digit. -/
def EndsDigits (rest : List Char) : Prop :=
  ∀ c ∈ rest.head?, c.isDigit = false

theorem not_isBlank_of_isDigit {c : Char} (digit : c.isDigit = true) : Text.isBlank c = false := by
  simp only [Char.isDigit, Bool.and_eq_true, decide_eq_true_eq] at digit
  have low : 48 ≤ c.toNat := digit.1
  have high : c.toNat ≤ 57 := digit.2
  simp only [Text.isBlank, Bool.or_eq_false_iff, Bool.and_eq_false_iff, decide_eq_false_iff_not,
    beq_eq_false_iff_ne]
  omega

theorem trimStart_cons {c : Char} (notBlank : Text.isBlank c = false) (rest : List Char) :
    Text.trimStart (c :: rest) = c :: rest :=
  List.dropWhile_cons_of_neg (by rw [notBlank]; decide)

theorem trimStart_padded (width n : Nat) (rest : List Char) :
    Text.trimStart (padded width n ++ rest) = padded width n ++ rest := by
  obtain ⟨c, more, written⟩ := List.exists_cons_of_ne_nil (padded_ne_nil width n)
  have digit : c.isDigit = true := isDigit_of_mem_padded (written ▸ List.mem_cons_self)
  rw [written, List.cons_append]
  exact trimStart_cons (not_isBlank_of_isDigit digit) _

/-- Digits are read as a number if no more digits may be read, or none follow. -/
theorem takeNumber_append {width : Nat} {digits : List Char} (written : digits ≠ [])
    (all : ∀ c ∈ digits, c.isDigit = true)
    (ends : digits.length = width ∨ (digits.length ≤ width ∧ EndsDigits rest)) :
    takeNumber width (digits ++ rest) = some (digitsValue digits, rest) := by
  have atMost : digits.length ≤ width := by
    rcases ends with full | ⟨atMost, -⟩
    · exact Nat.le_of_eq full
    · exact atMost
  have stops : EndsDigits (rest.take (width - digits.length)) := by
    intro c first
    rw [List.head?_take] at first
    rcases ends with full | ⟨-, stops⟩
    · rw [full, Nat.sub_self] at first
      cases first
    · split at first
      · cases first
      · exact stops c first
  have taken : ((digits ++ rest).take width).takeWhile Char.isDigit = digits := by
    rw [List.take_append, List.take_of_length_le atMost]
    exact Text.takeWhile_run all stops
  obtain ⟨c, more, rfl⟩ := List.exists_cons_of_ne_nil written
  rw [takeNumber, taken]
  exact congrArg (fun rest => some (digitsValue (c :: more), rest)) List.drop_left

theorem takeNumber_padded {width n : Nat} (positive : 0 < width) (fits : n < tenTo width)
    (rest : List Char) : takeNumber width (padded width n ++ rest) = some (n, rest) := by
  have read := @takeNumber_append rest width (padded width n) (padded_ne_nil width n)
    (fun _ => isDigit_of_mem_padded) (Or.inl (length_padded positive fits))
  rwa [digitsValue_padded] at read

/-! ## The parts of a text -/

theorem takeField_pair {low high n : Nat} (fits : high < 100) (atLeast : low ≤ n)
    (atMost : n ≤ high) (rest : List Char) :
    takeField 2 low high (padded 2 n ++ rest) = some (n, rest) := by
  rw [takeField, trimStart_padded, takeNumber_padded Nat.two_pos (Nat.lt_of_le_of_lt atMost fits)]
  simp [atLeast, atMost]

theorem takeMark_cons {mark : Char} (notBlank : Text.isBlank mark = false) (rest : List Char) :
    takeMark mark (mark :: rest) = some rest := by
  rw [takeMark, trimStart_cons notBlank]
  simp

theorem takeYear_padded {n : Nat} (fits : n < tenTo 4) (rest : List Char) :
    takeYear (padded 4 n ++ rest) = some (Int.ofNat n, rest) := by
  obtain ⟨c, more, written⟩ := List.exists_cons_of_ne_nil (padded_ne_nil 4 n)
  have digit : c.isDigit = true := isDigit_of_mem_padded (written ▸ List.mem_cons_self)
  have read := takeNumber_padded (by decide) fits rest
  rw [takeYear, trimStart_padded]
  rw [written, List.cons_append] at read ⊢
  -- A digit is neither of the signs.
  split
  next same =>
    obtain ⟨rfl, -⟩ := List.cons.inj same
    cases digit
  next same =>
    obtain ⟨rfl, -⟩ := List.cons.inj same
    cases digit
  next => rw [read, Option.map_some]

/-- After a sign all digits belong to the year. -/
theorem takeNumber_signed (n : Nat) (ends : EndsDigits rest) :
    takeNumber (padded 4 n ++ rest).length (padded 4 n ++ rest) = some (n, rest) := by
  have within : (padded 4 n).length ≤ (padded 4 n ++ rest).length := by
    rw [List.length_append]
    exact Nat.le_add_right _ _
  have read := takeNumber_append (padded_ne_nil 4 n) (fun _ => isDigit_of_mem_padded)
    (Or.inr ⟨within, ends⟩)
  rwa [digitsValue_padded] at read

/-- A year is read up to where its digits end. -/
theorem takeYear_yearChars (year : Int) (ends : EndsDigits rest) :
    takeYear (yearChars year ++ rest) = some (year, rest) := by
  rw [yearChars]
  split
  next plain =>
    simp only [Bool.and_eq_true, decide_eq_true_eq] at plain
    have fits : year.toNat < tenTo 4 := by
      change year.toNat < 10000
      omega
    rw [takeYear_padded fits]
    exact congrArg (fun year => some (year, rest)) (Int.toNat_of_nonneg plain.1)
  next signed =>
    have read := takeNumber_signed year.natAbs ends
    rw [List.cons_append]
    split
    next negative =>
      rw [takeYear, trimStart_cons rfl]
      simp only [read, Option.map_some, Int.ofNat_eq_natCast]
      rw [Int.ofNat_natAbs_of_nonpos (Int.le_of_lt negative), Int.neg_neg]
    next notNegative =>
      rw [takeYear, trimStart_cons rfl]
      simp only [read, Option.map_some, Int.ofNat_eq_natCast]
      rw [Int.natAbs_of_nonneg (Int.not_lt.mp notNegative)]

/-- The text goes on neither with a digit nor with a point. -/
def EndsFraction (rest : List Char) : Prop :=
  EndsDigits rest ∧ ∀ c ∈ rest.head?, c ≠ '.'

/-- Digits after a point are read as billionths. -/
theorem takeFraction_padded {width n : Nat} (positive : 0 < width) (short : width ≤ 9)
    (fits : n < tenTo width) (ends : EndsDigits rest) :
    takeFraction ('.' :: (padded width n ++ rest)) = some (n * tenTo (9 - width), rest) := by
  have all : ∀ c ∈ padded width n, c.isDigit = true := fun _ => isDigit_of_mem_padded
  have length := length_padded positive fits
  have taken : (padded width n ++ rest).takeWhile Char.isDigit = padded width n :=
    Text.takeWhile_run all ends
  have counted : (padded width n).take 9 = padded width n :=
    List.take_of_length_le (by rw [length]; exact short)
  have value := digitsValue_padded width n
  obtain ⟨c, more, written⟩ := List.exists_cons_of_ne_nil (padded_ne_nil width n)
  rw [takeFraction, taken]
  rw [written] at counted value length ⊢
  simp only [counted, value, length]
  rw [List.drop_left' length]

/-- The digits that are left of billionths which end in zeros. -/
theorem takeFraction_scaled {width nanos : Nat} (positive : 0 < width) (short : width ≤ 9)
    (divides : tenTo (9 - width) ∣ nanos) (billionths : nanos < 1000000000)
    (ends : EndsDigits rest) :
    takeFraction ('.' :: (padded width (nanos / tenTo (9 - width)) ++ rest)) =
      some (nanos, rest) := by
  have whole : tenTo (9 - width) * tenTo width = 1000000000 := by
    rw [tenTo, tenTo, Nat.pow_eq, Nat.pow_eq, ← Nat.pow_add, Nat.sub_add_cancel short]
  have fits : nanos / tenTo (9 - width) < tenTo width := by
    apply Nat.div_lt_of_lt_mul
    rwa [whole]
  rw [takeFraction_padded positive short fits ends, Nat.div_mul_cancel divides]

theorem takeFraction_fractionChars {nanos : Nat} (billionths : nanos < 1000000000)
    (ends : EndsFraction rest) : takeFraction (fractionChars nanos ++ rest) = some (nanos, rest) := by
  rw [fractionChars]
  split
  next whole =>
    rw [beq_iff_eq.mp whole, List.nil_append, takeFraction]
    intro more point
    exact ends.2 '.' (by rw [point]; rfl) rfl
  next =>
    split
    next thousandths =>
      have divides := Nat.dvd_of_mod_eq_zero (beq_iff_eq.mp thousandths)
      exact takeFraction_scaled (by decide) (by decide) divides billionths ends.1
    next =>
      split
      next millionths =>
        have divides := Nat.dvd_of_mod_eq_zero (beq_iff_eq.mp millionths)
        exact takeFraction_scaled (by decide) (by decide) divides billionths ends.1
      next =>
        have digits := takeFraction_scaled (by decide) (Nat.le_refl 9) (Nat.one_dvd nanos)
          billionths ends.1
        rwa [Nat.sub_self, tenTo, Nat.pow_eq, Nat.pow_zero, Nat.div_one] at digits

/-! ## Dates and times -/

/-- The characters of a date. -/
def dateChars (date : Date) : List Char :=
  yearChars date.year ++ '-' :: padded 2 date.month ++ '-' :: padded 2 date.day

/-- The characters of a time of day, `leap` being one for the leap second and zero otherwise. -/
def timeChars (second leap nanos : Nat) : List Char :=
  padded 2 (second / 3600) ++ ':' :: padded 2 (second / 60 % 60) ++
    ':' :: padded 2 (second % 60 + leap) ++ fractionChars nanos

/-- Only after the second 59 does a leap second show in the characters. -/
theorem timeChars_next {second nanos : Nat} (notLast : second % 60 ≠ 59) :
    timeChars (second + 1) 0 nanos = timeChars second 1 nanos := by
  have hour : (second + 1) / 3600 = second / 3600 := by omega
  have minute : (second + 1) / 60 = second / 60 := by omega
  have inMinute : (second + 1) % 60 + 0 = second % 60 + 1 := by omega
  rw [timeChars, timeChars, hour, minute, inMinute]

theorem daysInMonth_le (year : Int) (month : Nat) : daysInMonth year month ≤ 31 := by
  rw [daysInMonth]
  split_ifs <;> decide

theorem takeDate_dateChars {date : Date} (valid : date.isValid = true) (rest : List Char) :
    takeDate (dateChars date ++ rest) = some (date, rest) := by
  obtain ⟨⟨fromJanuary, toDecember⟩, fromFirst, toLast⟩ := Date.isValid_iff.mp valid
  have toLast := Nat.le_trans toLast (daysInMonth_le date.year date.month)
  have year (rest : List Char) : takeYear (yearChars date.year ++ '-' :: rest) =
      some (date.year, '-' :: rest) :=
    takeYear_yearChars date.year fun c first => by cases first; rfl
  have mark (rest : List Char) : takeMark '-' ('-' :: rest) = some rest := takeMark_cons rfl rest
  have month (rest : List Char) : takeField 2 1 12 (padded 2 date.month ++ rest) =
      some (date.month, rest) := takeField_pair (by decide) fromJanuary toDecember rest
  have day : takeField 2 1 31 (padded 2 date.day ++ rest) = some (date.day, rest) :=
    takeField_pair (by decide) fromFirst toLast rest
  simp only [dateChars, List.append_assoc, List.cons_append, takeDate, year, mark, month, day,
    bind, Option.bind]
  exact if_pos valid

/-- A time of day is read back; the second 60 is that of a leap second after the second 59. -/
theorem takeTime_timeChars {second leap nanos : Nat} (inDay : second < 86400)
    (isLeap : leap = 0 ∨ (leap = 1 ∧ second % 60 = 59)) (billionths : nanos < 1000000000)
    (ends : EndsFraction rest) :
    takeTime (timeChars second leap nanos ++ rest) =
      some (second, leap * 1000000000 + nanos, rest) := by
  have mark (rest : List Char) : takeMark ':' (':' :: rest) = some rest := takeMark_cons rfl rest
  have hour (rest : List Char) : takeField 2 0 23 (padded 2 (second / 3600) ++ rest) =
      some (second / 3600, rest) := takeField_pair (by decide) (by omega) (by omega) _
  have minute (rest : List Char) : takeField 2 0 59 (padded 2 (second / 60 % 60) ++ rest) =
      some (second / 60 % 60, rest) :=
    takeField_pair (by decide) (by omega) (by omega) _
  have inMinute (rest : List Char) : takeField 2 0 60 (padded 2 (second % 60 + leap) ++ rest) =
      some (second % 60 + leap, rest) :=
    takeField_pair (by decide) (by omega) (by omega) _
  have fraction := takeFraction_fractionChars billionths ends
  simp only [timeChars, List.append_assoc, List.cons_append, takeTime, hour, mark, minute, inMinute,
    fraction, bind, Option.bind]
  rcases isLeap with rfl | ⟨rfl, last⟩
  · have notLast : ¬(second % 60 + 0 == 60) = true := by
      rw [beq_iff_eq]
      omega
    have whole : second / 3600 * 3600 + second / 60 % 60 * 60 + (second % 60 + 0) = second := by
      omega
    rw [if_neg notLast, whole, Nat.zero_mul, Nat.zero_add]
  · have isLast : (second % 60 + 1 == 60) = true := by
      rw [beq_iff_eq]
      omega
    have whole : second / 3600 * 3600 + second / 60 % 60 * 60 + 59 = second := by omega
    rw [if_pos isLast, whole, Nat.one_mul]

/-! ## Instants -/

/-- The characters of the offset zero. -/
def ZeroOffset.chars : ZeroOffset → List Char
  | letter => ['Z']
  | digits => ['+', '0', '0', ':', '0', '0']

theorem takeOffset_chars (offset : ZeroOffset) :
    takeOffset (Text.trimStart offset.chars) = some (0, []) := by
  cases offset <;> rfl

theorem endsFraction_offset (offset : ZeroOffset) : EndsFraction offset.chars := by
  cases offset <;> exact ⟨fun c first => by cases first; rfl, fun c first => by cases first; decide⟩

namespace Instant

/-- A leap second, if the instant is one, follows the last second of a minute. -/
def LeapEndsMinute (instant : Instant) : Prop :=
  Time.LeapEndsMinute instant.seconds instant.nanos

instance (instant : Instant) : Decidable instant.LeapEndsMinute :=
  inferInstanceAs (Decidable (Time.LeapEndsMinute _ _))

/-- The last second ends a minute, so that the second after another one is that of an instant. -/
theorem isInstant_next (instant : Instant) (within : ¬instant.LeapEndsMinute) :
    IsInstant (instant.seconds + 1) (instant.nanos - 1000000000) := by
  obtain ⟨isLeap, notLast⟩ := Classical.not_imp.mp within
  obtain ⟨fromFirst, toLast, fraction⟩ := instant.isInstant
  have lastOfMinute : lastSecond % 60 = 59 := by decide
  refine ⟨?_, ?_, ?_⟩
  · exact Int.le_add_one fromFirst
  · have earlier : instant.seconds ≠ lastSecond := fun same => notLast (same ▸ lastOfMinute)
    exact Int.add_one_le_iff.mpr (Int.lt_iff_le_and_ne.mpr ⟨toLast, earlier⟩)
  · exact Nat.lt_of_le_of_lt (Nat.sub_le _ _) fraction

/-- The instant that the texts of an instant are read as: the next second in place of a leap second
within a minute, and otherwise the instant itself. -/
def readBack (instant : Instant) : Instant :=
  if within : ¬instant.LeapEndsMinute then
    ⟨instant.seconds + 1, instant.nanos - 1000000000, instant.isInstant_next within⟩
  else instant

theorem readBack_of_endsMinute {instant : Instant} (ends : instant.LeapEndsMinute) :
    instant.readBack = instant :=
  dif_neg (not_not_intro ends)

theorem readBack_of_within {instant : Instant} (within : ¬instant.LeapEndsMinute) :
    instant.readBack = ⟨instant.seconds + 1, instant.nanos - 1000000000,
      instant.isInstant_next within⟩ :=
  dif_pos within

theorem leapEndsMinute_readBack (instant : Instant) : instant.readBack.LeapEndsMinute := by
  by_cases ends : instant.LeapEndsMinute
  · rwa [readBack_of_endsMinute ends]
  · obtain ⟨-, -, fraction⟩ := instant.isInstant
    rw [readBack_of_within ends]
    intro isLeap
    exact absurd isLeap (by change ¬1000000000 ≤ instant.nanos - 1000000000; omega)

theorem compare_self (instant : Instant) : instant.compare instant = .eq := by
  rw [compare, Std.compare_self, Std.compare_self]
  rfl

theorem ofSeconds?_eq {instant : Instant} (ends : instant.LeapEndsMinute) :
    ofSeconds? instant.seconds instant.nanos = some instant :=
  dif_pos ⟨instant.isInstant, ends⟩

/-- The characters of an instant by its parts. -/
theorem chars_eq (offset : ZeroOffset) (instant : Instant) :
    instant.chars offset = dateChars (Date.ofDayNumber (instant.seconds / 86400)) ++
      'T' :: (timeChars (instant.seconds % 86400).toNat (instant.nanos / 1000000000)
        (instant.nanos % 1000000000) ++ offset.chars) := by
  cases offset <;>
    simp only [chars, dateChars, timeChars, ZeroOffset.chars, List.append_assoc, List.cons_append]

/-- A leap second within a minute is written as the second after it. -/
theorem chars_readBack (offset : ZeroOffset) (instant : Instant) :
    instant.readBack.chars offset = instant.chars offset := by
  by_cases ends : instant.LeapEndsMinute
  · rw [readBack_of_endsMinute ends]
  · obtain ⟨isLeap, notLast⟩ := Classical.not_imp.mp ends
    obtain ⟨-, -, fraction⟩ := instant.isInstant
    have day : (instant.seconds + 1) / 86400 = instant.seconds / 86400 := by omega
    have second : ((instant.seconds + 1) % 86400).toNat = (instant.seconds % 86400).toNat + 1 := by
      omega
    have whole : instant.nanos / 1000000000 = 1 := by omega
    have noLeap : (instant.nanos - 1000000000) / 1000000000 = 0 := by omega
    have fractionLeft : (instant.nanos - 1000000000) % 1000000000 =
        instant.nanos % 1000000000 := by omega
    have inMinute : (instant.seconds % 86400).toNat % 60 ≠ 59 := by omega
    rw [readBack_of_within ends, chars_eq, chars_eq, day, second, whole, noLeap, fractionLeft,
      timeChars_next inMinute]

theorem read?_chars (offset : ZeroOffset) {instant : Instant} (ends : instant.LeapEndsMinute) :
    read? (instant.chars offset) = some instant := by
  obtain ⟨-, -, fraction⟩ := instant.isInstant
  have inDay : (instant.seconds % 86400).toNat < 86400 := by omega
  have isLeap : instant.nanos / 1000000000 = 0 ∨
      (instant.nanos / 1000000000 = 1 ∧ (instant.seconds % 86400).toNat % 60 = 59) := by
    have lastOfMinute : 1000000000 ≤ instant.nanos → instant.seconds % 60 = 59 := ends
    omega
  have billionths : instant.nanos % 1000000000 < 1000000000 := by omega
  have nanos : instant.nanos / 1000000000 * 1000000000 + instant.nanos % 1000000000 =
      instant.nanos := by omega
  have seconds : instant.seconds / 86400 * 86400 +
      Int.ofNat (instant.seconds % 86400).toNat = instant.seconds := by
    rw [Int.ofNat_eq_natCast]
    omega
  have date := takeDate_dateChars (Date.isValid_ofDayNumber (instant.seconds / 86400))
  have time := takeTime_timeChars inDay isLeap billionths (endsFraction_offset offset)
  rw [nanos] at time
  simp only [read?, chars_eq, date, time, takeOffset_chars, Date.dayNumber_ofDayNumber, seconds,
    ofSeconds?_eq ends, bind, Option.bind]
  rw [Int.zero_mul, Int.sub_zero, ofSeconds?_eq ends]
  rfl

/-- **An instant is read back from its text**, with either spelling of the offset; a leap second
within a minute is read as the second after it. -/
theorem ofText?_text (offset : ZeroOffset) (instant : Instant) :
    ofText? (instant.text offset) = some instant.readBack := by
  rw [ofText?, text, String.toList_ofList, ← chars_readBack]
  exact read?_chars offset instant.leapEndsMinute_readBack

end Instant

end Time

end Keyset
