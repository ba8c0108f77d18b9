import Keyset.Decimal.Digits
import Keyset.Text.Blank
import Keyset.Time.Instant

/-! # RFC 3339 text

Instants are written as a date, a `T`, a time of day and an offset of zero, which has two
spellings (`Keyset.Time.Instant.text`). The fraction of the second has no, three, six or nine
digits, and years outside the four digits have a sign. Reading (`Keyset.Time.Instant.read?`)
also accepts blanks between the parts, shorter numbers, a blank or a small `t` for the `T`,
and every offset of less than a day.
-/

namespace Keyset.Time

open Decimal (digitsValue padded)

/-- The two spellings of the offset zero. -/
inductive ZeroOffset
  /-- The letter `Z`. -/
  | letter
  /-- The digits `+00:00`. -/
  | digits

/-- A year: four digits, or a sign and at least four digits. -/
def yearChars (year : Int) : List Char :=
  if 0 ≤ year && year ≤ 9999 then padded 4 year.toNat
  else (if year < 0 then '-' else '+') :: padded 4 year.natAbs

/-- The fraction of a second, in the fewest groups of three digits. -/
def fractionChars (nanos : Nat) : List Char :=
  if nanos == 0 then []
  else if nanos % 1000000 == 0 then '.' :: padded 3 (nanos / 1000000)
  else if nanos % 1000 == 0 then '.' :: padded 6 (nanos / 1000)
  else '.' :: padded 9 nanos

namespace Instant

/-- The characters of an instant. In a leap second one more second is counted, which is the second
60 at the end of a minute. -/
def chars (offset : ZeroOffset) (instant : Instant) : List Char :=
  let date := Date.ofDayNumber (instant.seconds / 86400)
  let second := (instant.seconds % 86400).toNat
  let leap := instant.nanos / 1000000000
  yearChars date.year ++ '-' :: padded 2 date.month ++ '-' :: padded 2 date.day ++
    'T' :: padded 2 (second / 3600) ++ ':' :: padded 2 (second / 60 % 60) ++
    ':' :: padded 2 (second % 60 + leap) ++ fractionChars (instant.nanos % 1000000000) ++
    match offset with
    | .letter => ['Z']
    | .digits => ['+', '0', '0', ':', '0', '0']

/-- The text of an instant. -/
def text (offset : ZeroOffset) (instant : Instant) : String :=
  String.ofList (instant.chars offset)

end Instant

/-- A number of one to `width` digits, and the rest. -/
def takeNumber (width : Nat) (text : List Char) : Option (Nat × List Char) :=
  match (text.take width).takeWhile Char.isDigit with
  | [] => none
  | digits => some (digitsValue digits, text.drop digits.length)

/-- A number of one to `width` digits after blanks that lies between the bounds. -/
def takeField (width low high : Nat) (text : List Char) : Option (Nat × List Char) := do
  let (n, rest) ← takeNumber width (Text.trimStart text)
  if low ≤ n && n ≤ high then some (n, rest) else none

/-- A mark after blanks. -/
def takeMark (mark : Char) (text : List Char) : Option (List Char) :=
  match Text.trimStart text with
  | c :: rest => if c == mark then some rest else none
  | [] => none

/-- A year: up to four digits, or a sign and any digits. -/
def takeYear (text : List Char) : Option (Int × List Char) :=
  match Text.trimStart text with
  | '-' :: rest => (takeNumber rest.length rest).map fun (n, rest) => (-Int.ofNat n, rest)
  | '+' :: rest => (takeNumber rest.length rest).map fun (n, rest) => (Int.ofNat n, rest)
  | rest => (takeNumber 4 rest).map fun (n, rest) => (Int.ofNat n, rest)

/-- The nanoseconds after a point: nine digits count, and further ones are passed over. -/
def takeFraction (text : List Char) : Option (Nat × List Char) :=
  match text with
  | '.' :: rest =>
    match rest.takeWhile Char.isDigit with
    | [] => none
    | digits =>
      let counted := digits.take 9
      some (digitsValue counted * Decimal.tenTo (9 - counted.length), rest.drop digits.length)
  | _ => some (0, text)

/-- Two digits. -/
def takePair (text : List Char) : Option (Nat × List Char) :=
  match text with
  | tens :: ones :: rest =>
    if tens.isDigit && ones.isDigit then some (digitsValue [tens, ones], rest) else none
  | _ => none

/-- The minutes of an offset, after its sign. -/
def takeOffsetSize (text : List Char) : Option (Nat × List Char) := do
  let (hours, rest) ← takePair text
  let (minutes, rest) ← takePair (rest.dropWhile fun c => c == ':' || Text.isBlank c)
  if minutes < 60 then some (hours * 60 + minutes, rest) else none

/-- An offset from Universal Time in minutes: `Z`, `UTC`, or a sign with hours and
minutes. -/
def takeOffset (text : List Char) : Option (Int × List Char) :=
  if (text.take 3).map Char.toUpper == ['U', 'T', 'C'] then some (0, text.drop 3)
  else
    match text with
    | 'Z' :: rest => some (0, rest)
    | 'z' :: rest => some (0, rest)
    | '+' :: rest => (takeOffsetSize rest).map fun (n, rest) => (Int.ofNat n, rest)
    | '-' :: rest => (takeOffsetSize rest).map fun (n, rest) => (-Int.ofNat n, rest)
    | '−' :: rest => (takeOffsetSize rest).map fun (n, rest) => (-Int.ofNat n, rest)
    | _ => none

/-- A date of the calendar. -/
def takeDate (text : List Char) : Option (Date × List Char) := do
  let (year, rest) ← takeYear text
  let rest ← takeMark '-' rest
  let (month, rest) ← takeField 2 1 12 rest
  let rest ← takeMark '-' rest
  let (day, rest) ← takeField 2 1 31 rest
  let date : Date := ⟨year, month, day⟩
  if date.isValid then some (date, rest) else none

/-- A time of day: its second, its nanoseconds, and the rest. The second 60 is the leap
second after the second 59. -/
def takeTime (text : List Char) : Option (Nat × Nat × List Char) := do
  let (hour, rest) ← takeField 2 0 23 text
  let rest ← takeMark ':' rest
  let (minute, rest) ← takeField 2 0 59 rest
  let rest ← takeMark ':' rest
  let (second, rest) ← takeField 2 0 60 rest
  let (nanos, rest) ← takeFraction rest
  let start := hour * 3600 + minute * 60
  if second == 60 then some (start + 59, 1000000000 + nanos, rest)
  else some (start + second, nanos, rest)

namespace Instant

/-- Read an instant. Its local date has to lie within the range of instants, too. -/
def read? (text : List Char) : Option Instant := do
  let (date, rest) ← takeDate text
  let rest ← match rest with
    | 'T' :: rest => some rest
    | 't' :: rest => some rest
    | ' ' :: rest => some rest
    | _ => none
  let (second, nanos, rest) ← takeTime rest
  let (offset, rest) ← takeOffset (Text.trimStart rest)
  let localTime ← ofSeconds? (date.dayNumber * 86400 + Int.ofNat second) nanos
  if Text.trimStart rest == [] && offset.natAbs < 1440 then
    ofSeconds? (localTime.seconds - offset * 60) nanos
  else none

/-- Read an instant from its text. -/
def ofText? (text : String) : Option Instant :=
  read? text.toList

end Instant

end Keyset.Time
