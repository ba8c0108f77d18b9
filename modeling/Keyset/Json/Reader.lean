import Keyset.Decimal.Digits
import Keyset.Decimal.Scaled
import Keyset.Json.Basic
import Keyset.Text.Blank
import Keyset.Text.Hex

/-! # Reading JSON

A strict reader of JSON text (`Keyset.Json.read?`). Nothing may follow the value but blanks,
a number has no superfluous zero and lies within the doubles, a quoted text holds no control
character and no half of a surrogate pair, and arrays and objects are nested only so deep as
the caller allows. Of members that the caller passes over (`Keyset.Json.readPassing?`) only the
grammar counts.
-/

namespace Keyset.Json

open Decimal (digitValue digitsValue spanDigits)
open Text (hexDigit? skipGaps)

/-- The code that four hexadecimal digits stand for. -/
def hexCode? (a b c d : Char) : Option Nat := do
  some ((((← hexDigit? a) * 16 + (← hexDigit? b)) * 16 + (← hexDigit? c)) * 16 + (← hexDigit? d))

/-- The first half of a surrogate pair. -/
def isHighSurrogate (code : Nat) : Bool :=
  0xD800 ≤ code && code < 0xDC00

/-- The second half of a surrogate pair. -/
def isLowSurrogate (code : Nat) : Bool :=
  0xDC00 ≤ code && code < 0xE000

/-- The character after a backslash. -/
def unescape? (c : Char) : Option Char :=
  match c with
  | '"' => some '"'
  | '\\' => some '\\'
  | '/' => some '/'
  | 'b' => some '\x08'
  | 'f' => some '\x0c'
  | 'n' => some '\n'
  | 'r' => some '\r'
  | 't' => some '\t'
  | _ => none

/-- The characters of a quoted text up to its closing quote, and the rest. -/
def readQuoted : List Char → Option (List Char × List Char)
  | [] => none
  | '"' :: rest => some ([], rest)
  | '\\' :: 'u' :: a :: b :: c :: d :: rest => do
    let code ← hexCode? a b c d
    if isHighSurrogate code then
      match rest with
      | '\\' :: 'u' :: e :: f :: g :: h :: rest =>
        let low ← hexCode? e f g h
        if isLowSurrogate low then
          let (chars, rest) ← readQuoted rest
          some (Char.ofNat (0x10000 + (code - 0xD800) * 0x400 + (low - 0xDC00)) :: chars, rest)
        else none
      | _ => none
    else if isLowSurrogate code then none
    else
      let (chars, rest) ← readQuoted rest
      some (Char.ofNat code :: chars, rest)
  | '\\' :: mark :: rest => do
    let c ← unescape? mark
    let (chars, rest) ← readQuoted rest
    some (c :: chars, rest)
  | c :: rest =>
    if c.toNat < 0x20 || c == '\\' then none
    else (readQuoted rest).map fun (chars, rest) => (c :: chars, rest)

/-- A number as it is written. -/
structure Numeral where
  negative : Bool
  whole : List Char
  fraction : List Char
  exponent : Option Int

/-- The digits of a whole number without superfluous zeros. -/
def readWhole (text : List Char) : Option (List Char × List Char) :=
  match spanDigits text with
  | ([], _) => none
  | ('0' :: _ :: _, _) => none
  | (digits, rest) => some (digits, rest)

/-- The digits after a point, if there is a point. -/
def readFraction (text : List Char) : Option (List Char × List Char) :=
  match text with
  | '.' :: rest =>
    match spanDigits rest with
    | ([], _) => none
    | (digits, rest) => some (digits, rest)
  | _ => some ([], text)

/-- The digits of an exponent after its sign. -/
def readPower (text : List Char) : Option (Nat × List Char) :=
  match spanDigits text with
  | ([], _) => none
  | (digits, rest) => some (digitsValue digits, rest)

/-- The exponent, if there is one. -/
def readExponent (text : List Char) : Option (Option Int × List Char) :=
  match text with
  | mark :: rest =>
    if mark == 'e' || mark == 'E' then
      match rest with
      | '-' :: rest => (readPower rest).map fun (n, rest) => (some (-Int.ofNat n), rest)
      | '+' :: rest => (readPower rest).map fun (n, rest) => (some (Int.ofNat n), rest)
      | rest => (readPower rest).map fun (n, rest) => (some (Int.ofNat n), rest)
    else some (none, text)
  | [] => some (none, [])

/-- A number after its sign. -/
def readUnsigned (negative : Bool) (text : List Char) : Option (Numeral × List Char) := do
  let (whole, rest) ← readWhole text
  let (fraction, rest) ← readFraction rest
  let (exponent, rest) ← readExponent rest
  some (⟨negative, whole, fraction, exponent⟩, rest)

/-- A number. -/
def readNumeral (text : List Char) : Option (Numeral × List Char) :=
  match text with
  | '-' :: rest => readUnsigned true rest
  | _ => readUnsigned false text

/-- A number continued by the digits that leave it below `2 ^ 64`, and how many digits that
are. -/
def appendDigits (n : Nat) : List Char → Nat × Nat
  | [] => (n, 0)
  | digit :: rest =>
    let longer := n * 10 + digitValue digit
    if longer < Decimal.twoTo 64 then
      let (all, count) := appendDigits longer rest
      (all, count + 1)
    else (n, 0)

/-- The double of a numeral. Only the digits that fit below `2 ^ 64` count. -/
def Numeral.double? (numeral : Numeral) : Option Float :=
  let (whole, wholeCount) := appendDigits 0 numeral.whole
  let (significand, fractionCount) := appendDigits whole numeral.fraction
  let power := Int.ofNat (numeral.whole.length - wholeCount) - Int.ofNat fractionCount +
    numeral.exponent.getD 0
  (Decimal.scaled? significand power).map fun x => if numeral.negative then -x else x

/-- The number of a numeral: a whole number if it is written as one and fits 64 bits, a
double otherwise. A negative zero is a double. -/
def Numeral.number? (numeral : Numeral) : Option Number :=
  let size := digitsValue numeral.whole
  if numeral.fraction.isEmpty && numeral.exponent.isNone then
    if numeral.negative then
      if 0 < size && size ≤ Decimal.twoTo 63 then some (.integer (-Int.ofNat size))
      else numeral.double?.map .real
    else if size < Decimal.twoTo 64 then some (.integer (Int.ofNat size))
    else numeral.double?.map .real
  else numeral.double?.map .real

/-- A value that is neither an array nor an object. -/
def readScalar (text : List Char) : Option (Json × List Char) :=
  match text with
  | 'n' :: 'u' :: 'l' :: 'l' :: rest => some (null, rest)
  | 't' :: 'r' :: 'u' :: 'e' :: rest => some (bool true, rest)
  | 'f' :: 'a' :: 'l' :: 's' :: 'e' :: rest => some (bool false, rest)
  | '"' :: rest => (readQuoted rest).map fun (chars, rest) => (string (String.ofList chars), rest)
  | _ => do
    let (numeral, rest) ← readNumeral text
    let n ← numeral.number?
    some (number n, rest)

/-- At most `room` items with commas between them up to the closing mark, and the rest. -/
def readSequence {α : Type} (item : List Char → Option (α × List Char)) (close : Char) :
    (room : Nat) → List Char → Option (List α × List Char)
  | 0, _ => none
  | room + 1, text => do
    let (first, rest) ← item text
    match skipGaps rest with
    | [] => none
    | mark :: rest =>
      if mark == close then some ([first], rest)
      else if mark == ',' then
        let (others, rest) ← readSequence item close room (skipGaps rest)
        some (first :: others, rest)
      else none

/-- The items between an opening mark, which has been read, and its closing mark. Each item
takes a character or more, so the text has room for no more items than characters. -/
def readItems {α : Type} (item : List Char → Option (α × List Char)) (close : Char)
    (text : List Char) : Option (List α × List Char) :=
  match skipGaps text with
  | [] => none
  | mark :: rest =>
    if mark == close then some ([], rest)
    else readSequence item close (mark :: rest).length (mark :: rest)

/-- The rest of a text after the closing quote. Halves of surrogate pairs may stand alone. -/
def skipQuoted : List Char → Option (List Char)
  | [] => none
  | '"' :: rest => some rest
  | '\\' :: 'u' :: a :: b :: c :: d :: rest => (hexCode? a b c d).bind fun _ => skipQuoted rest
  | '\\' :: mark :: rest => (unescape? mark).bind fun _ => skipQuoted rest
  | c :: rest => if c.toNat < 0x20 || c == '\\' then none else skipQuoted rest

/-- The kind of a value that is neither an array nor an object. -/
def readScalarKind (text : List Char) : Option (Json × List Char) :=
  match text with
  | 'n' :: 'u' :: 'l' :: 'l' :: rest => some (null, rest)
  | 't' :: 'r' :: 'u' :: 'e' :: rest => some (bool true, rest)
  | 'f' :: 'a' :: 'l' :: 's' :: 'e' :: rest => some (bool false, rest)
  | '"' :: rest => (skipQuoted rest).map fun rest => (string "", rest)
  | _ => (readNumeral text).map fun (_, rest) => (number (.integer 0), rest)

/-- The name of a member up to its value. -/
def skipName (text : List Char) : Option (List Char) :=
  match text with
  | '"' :: rest => do
    match skipGaps (← skipQuoted rest) with
    | ':' :: rest => some (skipGaps rest)
    | _ => none
  | _ => none

/-- The kind of a value, of which only the grammar counts: it may hold any numbers and any
halves of surrogate pairs. -/
def readKind : (depth : Nat) → List Char → Option (Json × List Char)
  | 0, text => readScalarKind text
  | depth + 1, text =>
    match text with
    | '[' :: rest => (readItems (readKind depth) ']' rest).map fun (_, rest) => (array [], rest)
    | '\x7b' :: rest =>
      (readItems (fun text => (skipName text).bind (readKind depth)) '\x7d' rest).map
        fun (_, rest) => (object [], rest)
    | _ => readScalarKind text

/-- A member of an object, its value being read by `value`. Of a member that is passed over only
the kind of the value is read. -/
def readMember (passes : String → Bool) (value : List Char → Option (Json × List Char))
    (text : List Char) : Option ((String × Json) × List Char) :=
  match text with
  | '"' :: rest => do
    let (name, rest) ← readQuoted rest
    let name := String.ofList name
    match skipGaps rest with
    | ':' :: rest =>
      let (json, rest) ←
        if passes name then readKind rest.length (skipGaps rest) else value (skipGaps rest)
      some ((name, json), rest)
    | _ => none
  | _ => none

/-- A value with arrays and objects nested at most `depth` deep. -/
def readValue (passes : String → Bool) : (depth : Nat) → List Char → Option (Json × List Char)
  | 0, text => readScalar text
  | depth + 1, text =>
    match text with
    | '[' :: rest => (readItems (readValue passes depth) ']' rest).map fun (items, rest) =>
      (array items, rest)
    | '\x7b' :: rest => (readItems (readMember passes (readValue passes depth)) '\x7d' rest).map
      fun (members, rest) => (object members, rest)
    | _ => readScalar text

/-- The tree of a text with arrays and objects nested at most `depth` deep. Members whose names
are passed over stand for their kinds. -/
def readPassing? (passes : String → Bool) (depth : Nat) (text : List Char) : Option Json := do
  let (json, rest) ← readValue passes depth (skipGaps text)
  if (skipGaps rest).isEmpty then some json else none

/-- The tree of a text with arrays and objects nested at most `depth` deep. -/
def read? (depth : Nat) (text : List Char) : Option Json :=
  readPassing? (fun _ => false) depth text

/-- How deep arrays and objects may be nested in a text from outside. -/
def depthLimit : Nat := 127

/-- The tree of a text from outside. -/
def ofText? (text : String) : Option Json :=
  read? depthLimit text.toList

end Keyset.Json
