import Keyset.Decimal.Shortest
import Keyset.Text.Hex
import Keyset.Time.Calendar
import Keyset.Toml.Basic

/-! # Words of TOML

A value without quotes or brackets is a word: a truth value, a whole number of 64 bits with a
sign, a double, or a date and a time of the calendar. `Keyset.Toml.readWord?` reads one; it tells
numbers and dates apart and keeps neither.
-/

namespace Keyset.Toml

open Decimal (digitCount tenTo twoTo)
open Text (hexDigit?)

/-- Digits of a kind with single underscores between them. -/
def isDigits (isDigit : Char → Bool) : List Char → Bool
  | [] => false
  | [c] => isDigit c
  | c :: '_' :: rest => isDigit c && isDigits isDigit rest
  | c :: rest => isDigit c && isDigits isDigit rest

/-- The number that digits of a base stand for. Underscores do not count. -/
def numeral (base : Nat) (digits : List Char) : Nat :=
  (digits.filterMap hexDigit?).foldl (fun n digit => n * base + digit) 0

/-- The digits and underscores at the front of a text, and the rest. -/
def spanMarked (text : List Char) : List Char × List Char :=
  (text.takeWhile fun c => c.isDigit || c == '_', text.dropWhile fun c => c.isDigit || c == '_')

/-- A whole number of a base other than ten, after its mark. -/
def isBased (base : Nat) (isDigit : Char → Bool) (digits : List Char) : Bool :=
  isDigits isDigit digits && numeral base digits < twoTo 63

/-- A decimal whole number without a sign, of any size. -/
def isDecimal (text : List Char) : Bool :=
  match text with
  | ['0'] => true
  | '0' :: _ => false
  | _ => isDigits Char.isDigit text

/-- The power of ten at the end of a number, which may be left out. -/
def power? (text : List Char) : Option Int :=
  let size? := fun digits : List Char =>
    if isDigits Char.isDigit digits then some (numeral 10 digits) else none
  match text with
  | [] => some 0
  | mark :: rest =>
    if mark == 'e' || mark == 'E' then
      match rest with
      | '-' :: digits => (size? digits).map fun size => -(size : Int)
      | '+' :: digits => (size? digits).map fun size => (size : Int)
      | digits => (size? digits).map fun size => (size : Int)
    else none

/-- Whether a number times a power of ten is nearer to a finite double than to infinity. -/
def isBounded (n : Nat) (power : Int) : Bool :=
  let bound := twoTo 1024 - twoTo 970
  match power with
  | .ofNat p => n == 0 || (p < 310 && n * tenTo p < bound)
  | .negSucc p => digitCount n ≤ p + 1 || n < bound * tenTo (p + 1)

/-- A number without its sign. A whole number has 64 bits. A double may be negative infinity, but
not positive infinity, unless it is written as such. -/
def isUnsigned (negative : Bool) (text : List Char) : Bool :=
  let (whole, rest) := spanMarked text
  if text == "inf".toList || text == "nan".toList then true
  else if !isDecimal whole then false
  else
    match rest with
    | [] =>
      let size := numeral 10 whole
      size < twoTo 63 || (negative && size == twoTo 63)
    | '.' :: rest =>
      let (fraction, rest) := spanMarked rest
      let shift : Int := fraction.countP Char.isDigit
      isDigits Char.isDigit fraction && (power? rest).any fun power =>
        negative || isBounded (numeral 10 (whole ++ fraction)) (power - shift)
    | rest => (power? rest).any fun power => negative || isBounded (numeral 10 whole) power

/-- A number. -/
def isNumber (text : List Char) : Bool :=
  match text with
  | '0' :: 'x' :: digits => isBased 16 (fun c => (hexDigit? c).isSome) digits
  | '0' :: 'o' :: digits => isBased 8 (fun c => '0' ≤ c && c ≤ '7') digits
  | '0' :: 'b' :: digits => isBased 2 (fun c => c == '0' || c == '1') digits
  | '+' :: rest => isUnsigned false rest
  | '-' :: rest => isUnsigned true rest
  | _ => isUnsigned false text

/-- Whether a text has digits where the pattern has `0`, and the same characters elsewhere. -/
def hasForm (form text : List Char) : Bool :=
  form.length == text.length &&
    (form.zip text).all fun (f, c) => if f == '0' then c.isDigit else f == c

/-- The number that the two digits from a place on stand for. -/
def pairAt (place : Nat) (text : List Char) : Nat :=
  numeral 10 ((text.drop place).take 2)

/-- An hour and a minute of a day. -/
def isMinute (text : List Char) : Bool :=
  hasForm "00:00".toList text && pairAt 0 text < 24 && pairAt 3 text < 60

/-- A time of day with an optional fraction. There may be a leap second in every minute. -/
def isTime (text : List Char) : Bool :=
  isMinute (text.take 5) && hasForm ":00".toList ((text.drop 5).take 3) && pairAt 6 text ≤ 60 &&
    match text.drop 8 with
    | [] => true
    | '.' :: digits => !digits.isEmpty && digits.all Char.isDigit
    | _ => false

/-- A time of day with an optional offset. -/
def isOffsetTime (text : List Char) : Bool :=
  let front := text.take (text.length - 6)
  isTime text ||
    (isTime text.dropLast && (text.getLast? == some 'Z' || text.getLast? == some 'z')) ||
    (isTime front &&
      match text.drop front.length with
      | '+' :: offset => isMinute offset
      | '-' :: offset => isMinute offset
      | _ => false)

/-- A day of the calendar. -/
def isDay (text : List Char) : Bool :=
  hasForm "0000-00-00".toList text &&
    Time.Date.isValid ⟨numeral 10 (text.take 4), pairAt 5 text, pairAt 8 text⟩

/-- A day, a time, or both. -/
def isDate (text : List Char) : Bool :=
  isTime text ||
    (isDay (text.take 10) &&
      match text.drop 10 with
      | [] => true
      | mark :: time => (mark == 'T' || mark == 't' || mark == ' ') && isOffsetTime time)

/-- The characters of words. -/
def isWordChar (c : Char) : Bool :=
  c.isAlphanum || c == '_' || c == '+' || c == '-' || c == '.' || c == ':'

/-- The value of a word, and the rest. A day and a time may have a space between them. -/
def readWord? (text : List Char) : Option (Toml × List Char) :=
  let word := text.takeWhile isWordChar
  let rest := text.drop word.length
  if word == "true".toList then some (bool true, rest)
  else if word == "false".toList then some (bool false, rest)
  else if isNumber word then some (number, rest)
  else if isDate word then
    match rest with
    | ' ' :: after =>
      let time := after.takeWhile isWordChar
      if word.length == 10 && isOffsetTime time then some (date, after.drop time.length)
      else some (date, rest)
    | _ => some (date, rest)
  else none

end Keyset.Toml
