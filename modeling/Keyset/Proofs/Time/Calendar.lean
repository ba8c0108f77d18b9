import Keyset.Time.Calendar

/-! # Dates and day numbers

Every day number has a date of the calendar (`Keyset.Time.Date.isValid_ofDayNumber`) and is the
number of that date (`Keyset.Time.Date.dayNumber_ofDayNumber`). A cycle of 400 years from March
consists of four centuries, a century of 25 blocks of four years, and a block of four years; the
last day of a block is a leap day, but for the last block of a century other than the fourth.
-/

namespace Keyset.Time

/-- A day of the cycle of 400 years, as the day of a year of a block of a century. -/
structure IsDayOfCycle (dayOfCycle century block year day : Int) : Prop where
  sum : dayOfCycle = 36524 * century + 1461 * block + 365 * year + day
  century_mem : 0 ≤ century ∧ century ≤ 3
  block_mem : 0 ≤ block ∧ block ≤ 24
  year_mem : 0 ≤ year ∧ year ≤ 3
  day_mem : 0 ≤ day ∧ day ≤ 365
  leapDay : day = 365 → year = 3 ∧ (block = 24 → century = 3)

theorem exists_isDayOfCycle {dayOfCycle : Int} (low : 0 ≤ dayOfCycle)
    (high : dayOfCycle < 146097) :
    ∃ century block year day, IsDayOfCycle dayOfCycle century block year day := by
  obtain ⟨century, dayOfCentury, inCycle, centuryMem, dayMem⟩ : ∃ century dayOfCentury : Int,
      dayOfCycle = 36524 * century + dayOfCentury ∧ (0 ≤ century ∧ century ≤ 3) ∧
        0 ≤ dayOfCentury ∧ dayOfCentury ≤ 36524 ∧ (dayOfCentury = 36524 → century = 3) := by
    by_cases last : dayOfCycle = 146096
    · exact ⟨3, 36524, by omega, by omega, by omega⟩
    · exact ⟨dayOfCycle / 36524, dayOfCycle % 36524, by omega, by omega, by omega⟩
  obtain ⟨year, day, inBlock, yearMem, leap⟩ : ∃ year day : Int,
      dayOfCentury % 1461 = 365 * year + day ∧ (0 ≤ year ∧ year ≤ 3) ∧
        0 ≤ day ∧ day ≤ 365 ∧ (day = 365 → year = 3) := by
    by_cases last : dayOfCentury % 1461 = 1460
    · exact ⟨3, 365, by omega, by omega, by omega⟩
    · exact ⟨dayOfCentury % 1461 / 365, dayOfCentury % 1461 % 365, by omega, by omega, by omega⟩
  exact ⟨century, dayOfCentury / 1461, year, day, by omega, centuryMem, by omega, yearMem,
    by omega, by omega⟩

namespace IsDayOfCycle

variable {dayOfCycle century block year day : Int}

/-- Without the last day of the cycle, the century is counted by its days. -/
theorem century_eq (split : IsDayOfCycle dayOfCycle century block year day) :
    dayOfCycle / 36524 - dayOfCycle / 146096 = century := by
  obtain ⟨sum, centuryMem, blockMem, yearMem, dayMem, leap⟩ := split
  by_cases last : dayOfCycle = 146096
  · omega
  · have within : 36524 * century ≤ dayOfCycle ∧ dayOfCycle < 36524 * century + 36524 := by omega
    have counted : dayOfCycle / 36524 = century := by omega
    omega

/-- The days that the leap days push a year back are taken off before counting years. -/
theorem year_eq (split : IsDayOfCycle dayOfCycle century block year day) :
    (dayOfCycle - dayOfCycle / 1460 + dayOfCycle / 36524 - dayOfCycle / 146096) / 365 =
      100 * century + 4 * block + year := by
  have counted := split.century_eq
  obtain ⟨sum, centuryMem, blockMem, yearMem, dayMem, leap⟩ := split
  -- The count of blocks by 1460 days may be one too many in the fourth year of a block, and is
  -- so on its leap day.
  have atLeast : 25 * century + block ≤ dayOfCycle / 1460 := by omega
  have atMost : dayOfCycle / 1460 ≤ 25 * century + block + 1 := by omega
  have early : dayOfCycle / 1460 = 25 * century + block + 1 → 1364 ≤ 365 * year + day := by omega
  have onLeapDay : 365 * year + day = 1460 → dayOfCycle / 1460 = 25 * century + block + 1 := by
    omega
  omega

theorem day_eq (split : IsDayOfCycle dayOfCycle century block year day) :
    dayOfCycle - (365 * (100 * century + 4 * block + year) +
      (100 * century + 4 * block + year) / 4 - (100 * century + 4 * block + year) / 100) = day := by
  obtain ⟨sum, centuryMem, blockMem, yearMem, dayMem, leap⟩ := split
  omega

end IsDayOfCycle

/-- The months from March by their first days: 30 or 31 days each, and what is left for February. -/
theorem marchMonth_mem {dayOfYear : Int} (low : 0 ≤ dayOfYear) (high : dayOfYear ≤ 365) :
    let marchMonth := (5 * dayOfYear + 2) / 153
    let day := dayOfYear - (153 * marchMonth + 2) / 5 + 1
    (0 ≤ marchMonth ∧ marchMonth ≤ 11) ∧ (1 ≤ day ∧ day ≤ 31) ∧
      (marchMonth = 1 ∨ marchMonth = 3 ∨ marchMonth = 6 ∨ marchMonth = 8 → day ≤ 30) ∧
      (marchMonth = 11 → day ≤ 29 ∧ (dayOfYear ≠ 365 → day ≤ 28)) := by
  intro marchMonth day
  omega

namespace Date

/-- The date of a day of a month, both the year and the month being counted from March. -/
def ofMarch (marchYear marchMonth day : Int) : Date :=
  let month := if marchMonth < 10 then marchMonth + 3 else marchMonth - 9
  { year := if month ≤ 2 then marchYear + 1 else marchYear
    month := month.toNat
    day := day.toNat }

/-- A date by its month counted from March: the year of a day number and the place of the day in
it. -/
theorem exists_ofMarch (number : Int) :
    ∃ cycle century block year day : Int,
      IsDayOfCycle ((number + 719468) % 146097) century block year day ∧
        cycle = (number + 719468) / 146097 ∧
        ofDayNumber number = ofMarch (100 * century + 4 * block + year + cycle * 400)
          ((5 * day + 2) / 153) (day - (153 * ((5 * day + 2) / 153) + 2) / 5 + 1) := by
  obtain ⟨century, block, year, day, split⟩ :=
    exists_isDayOfCycle (Int.emod_nonneg (number + 719468) (by decide : (146097 : Int) ≠ 0))
      (Int.emod_lt_of_pos (number + 719468) (by decide))
  refine ⟨_, century, block, year, day, split, rfl, ?_⟩
  simp only [ofDayNumber, split.year_eq, split.day_eq]
  rfl

/-- The number of a date that is counted from March. -/
theorem dayNumber_ofMarch {marchYear marchMonth day : Int} (low : 0 ≤ marchMonth)
    (high : marchMonth ≤ 11) (positive : 1 ≤ day) :
    (ofMarch marchYear marchMonth day).dayNumber =
      marchYear / 400 * 146097 + (marchYear % 400 * 365 + marchYear % 400 / 4 -
        marchYear % 400 / 100 + ((153 * marchMonth + 2) / 5 + day - 1)) - 719468 := by
  have dayKept : (day.toNat : Int) = day := Int.toNat_of_nonneg (by omega)
  by_cases sameYear : marchMonth < 10
  · have notEarly : ¬(marchMonth + 3).toNat ≤ 2 := by omega
    have monthKept : ((marchMonth + 3).toNat : Int) - 3 = marchMonth := by omega
    have notNext : ¬marchMonth + 3 ≤ 2 := by omega
    simp only [dayNumber, ofMarch, if_pos sameYear, if_neg notEarly, if_neg notNext, monthKept,
      dayKept]
  · have early : (marchMonth - 9).toNat ≤ 2 := by omega
    have monthKept : ((marchMonth - 9).toNat : Int) + 9 = marchMonth := by omega
    have next : marchMonth - 9 ≤ 2 := by omega
    simp only [dayNumber, ofMarch, if_neg sameYear, if_pos early, if_pos next, monthKept, dayKept,
      Int.add_sub_cancel]

/-- Every day number is the number of its date. -/
theorem dayNumber_ofDayNumber (number : Int) : (ofDayNumber number).dayNumber = number := by
  obtain ⟨cycle, century, block, year, day, split, cycles, written⟩ := exists_ofMarch number
  obtain ⟨⟨low, high⟩, ⟨positive, -⟩, -⟩ := marchMonth_mem split.day_mem.1 split.day_mem.2
  have ofCycle := split.day_eq
  rw [written, dayNumber_ofMarch low high positive]
  obtain ⟨sum, centuryMem, blockMem, yearMem, dayMem, leap⟩ := split
  have inCycle : 0 ≤ 100 * century + 4 * block + year ∧
      100 * century + 4 * block + year < 400 := by omega
  have cycleKept : (100 * century + 4 * block + year + cycle * 400) / 400 = cycle := by omega
  have yearKept : (100 * century + 4 * block + year + cycle * 400) % 400 =
      100 * century + 4 * block + year := by omega
  rw [cycleKept, yearKept]
  omega

theorem isValid_iff {date : Date} :
    date.isValid = true ↔ (1 ≤ date.month ∧ date.month ≤ 12) ∧
      1 ≤ date.day ∧ date.day ≤ daysInMonth date.year date.month := by
  simp only [isValid, Bool.and_eq_true, decide_eq_true_eq, and_assoc]

theorem daysInMonth_long {year : Int} {month : Nat}
    (long : month ≠ 2 ∧ month ≠ 4 ∧ month ≠ 6 ∧ month ≠ 9 ∧ month ≠ 11) :
    daysInMonth year month = 31 := by
  obtain ⟨february, april, june, september, november⟩ := long
  simp [daysInMonth, february, april, june, september, november]

theorem thirty_le_daysInMonth {year : Int} {month : Nat} (notFebruary : month ≠ 2) :
    30 ≤ daysInMonth year month := by
  rw [daysInMonth, if_neg (by simpa using notFebruary)]
  split
  · exact Nat.le_refl 30
  · exact Nat.le_succ 30

/-- A date that is counted from March lies in the calendar if its day does not lie past the end of
its month. -/
theorem isValid_ofMarch {marchYear marchMonth day : Int} (low : 0 ≤ marchMonth)
    (high : marchMonth ≤ 11) (positive : 1 ≤ day) (atMost : day ≤ 31)
    (short : marchMonth = 1 ∨ marchMonth = 3 ∨ marchMonth = 6 ∨ marchMonth = 8 → day ≤ 30)
    (february : marchMonth = 11 → day ≤ 29 ∧ (isLeapYear (marchYear + 1) = false → day ≤ 28)) :
    (ofMarch marchYear marchMonth day).isValid = true := by
  have month : ((ofMarch marchYear marchMonth day).month : Int) =
      if marchMonth < 10 then marchMonth + 3 else marchMonth - 9 := by
    apply Int.toNat_of_nonneg
    split <;> omega
  have dayKept : ((ofMarch marchYear marchMonth day).day : Int) = day :=
    Int.toNat_of_nonneg (by omega)
  rw [isValid_iff]
  refine ⟨by omega, by omega, ?_⟩
  by_cases isFebruary : marchMonth = 11
  · obtain ⟨inLeap, inCommon⟩ := february isFebruary
    subst isFebruary
    change (ofMarch marchYear 11 day).day ≤ if isLeapYear (marchYear + 1) = true then 29 else 28
    split
    next => omega
    next common =>
      have fewer := inCommon (Bool.not_eq_true _ ▸ common)
      omega
  · by_cases isShort : marchMonth = 1 ∨ marchMonth = 3 ∨ marchMonth = 6 ∨ marchMonth = 8
    · have fewer := short isShort
      exact Nat.le_trans (by omega) (thirty_le_daysInMonth (by omega))
    · rw [daysInMonth_long (by omega)]
      omega

theorem isLeapYear_iff (year : Int) :
    isLeapYear year = true ↔ year % 4 = 0 ∧ (year % 100 ≠ 0 ∨ year % 400 = 0) := by
  simp only [isLeapYear, Bool.and_eq_true, Bool.or_eq_true, beq_iff_eq, bne_iff_ne]

/-- Every day number has a date of the calendar. -/
theorem isValid_ofDayNumber (number : Int) : (ofDayNumber number).isValid = true := by
  obtain ⟨cycle, century, block, year, day, split, -, written⟩ := exists_ofMarch number
  obtain ⟨⟨low, high⟩, ⟨positive, atMost⟩, short, february⟩ :=
    marchMonth_mem split.day_mem.1 split.day_mem.2
  rw [written]
  refine isValid_ofMarch low high positive atMost short fun last => ?_
  obtain ⟨inLeap, inCommon⟩ := february last
  refine ⟨inLeap, fun common => inCommon fun leapDay => ?_⟩
  -- The leap day is the last day of a year from March, so February belongs to the next year.
  obtain ⟨lastYear, lastBlock⟩ := split.leapDay leapDay
  have isLeap : isLeapYear (100 * century + 4 * block + year + cycle * 400 + 1) = true := by
    obtain ⟨-, centuryMem, blockMem, -, -, -⟩ := split
    rw [isLeapYear_iff]
    omega
  rw [isLeap] at common
  cases common

end Date

end Keyset.Time
