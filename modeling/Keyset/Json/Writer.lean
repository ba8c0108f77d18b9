import Keyset.Decimal.Layout
import Keyset.Json.Basic

/-! # Writing JSON

JSON trees are written without blanks (`Keyset.Json.text`) or with every item and member on a
line of its own (`Keyset.Json.prettyText`). Only the quote, the backslash and the control
characters below the space are escaped.
-/

namespace Keyset.Json

/-- Doubles are written with all their places when the first digit has a power of ten from
-5 to 15, whole ones keep a zero after the point, and ties go to the even digit. -/
def realLayout : Decimal.Layout where
  positional lead := -5 ≤ lead && lead ≤ 15
  pointZero := true
  tie := .even

/-- The digits of a whole number, with a sign if it is negative. -/
def integerChars (n : Int) : List Char :=
  if n < 0 then '-' :: Nat.toDigits 10 n.natAbs else Nat.toDigits 10 n.natAbs

/-- The characters of a number. -/
def Number.chars : Number → List Char
  | .integer n => integerChars n
  | .real x => realLayout.chars x

/-- A character inside a quoted text. -/
def escapeChar (c : Char) : List Char :=
  if c == '"' then ['\\', '"']
  else if c == '\\' then ['\\', '\\']
  else if c == '\x08' then ['\\', 'b']
  else if c == '\x0c' then ['\\', 'f']
  else if c == '\n' then ['\\', 'n']
  else if c == '\r' then ['\\', 'r']
  else if c == '\t' then ['\\', 't']
  else if c.toNat < 0x20 then
    ['\\', 'u', '0', '0', Nat.digitChar (c.toNat / 16), Nat.digitChar (c.toNat % 16)]
  else [c]

/-- A quoted text. -/
def stringChars (s : String) : List Char :=
  '"' :: (s.toList.flatMap escapeChar ++ ['"'])

mutual

/-- The characters of a tree, without blanks. -/
def chars : Json → List Char
  | null => "null".toList
  | bool true => "true".toList
  | bool false => "false".toList
  | number n => n.chars
  | string s => stringChars s
  | array items => '[' :: (itemsChars items ++ [']'])
  | object members => '\x7b' :: (membersChars members ++ ['\x7d'])

/-- The items of an array with commas between them. -/
def itemsChars : List Json → List Char
  | [] => []
  | item :: rest => chars item ++ (if rest.isEmpty then [] else ',' :: itemsChars rest)

/-- The members of an object with commas between them. -/
def membersChars : List (String × Json) → List Char
  | [] => []
  | (name, value) :: rest =>
    stringChars name ++ ':' :: chars value ++
      (if rest.isEmpty then [] else ',' :: membersChars rest)

end

/-- The text of a tree, without blanks. -/
def text (json : Json) : String :=
  String.ofList json.chars

/-- The start of a line at a depth. -/
def newLine (depth : Nat) : List Char :=
  '\n' :: List.replicate (2 * depth) ' '

mutual

/-- The characters of a tree at a depth, one item or member a line. -/
def prettyChars (depth : Nat) : Json → List Char
  | array (item :: items) =>
    '[' :: (prettyItems (depth + 1) (item :: items) ++ newLine depth ++ [']'])
  | object (member :: members) =>
    '\x7b' :: (prettyMembers (depth + 1) (member :: members) ++ newLine depth ++ ['\x7d'])
  | json => chars json

def prettyItems (depth : Nat) : List Json → List Char
  | [] => []
  | item :: rest =>
    newLine depth ++ prettyChars depth item ++
      (if rest.isEmpty then [] else ',' :: prettyItems depth rest)

def prettyMembers (depth : Nat) : List (String × Json) → List Char
  | [] => []
  | (name, value) :: rest =>
    newLine depth ++ stringChars name ++ ':' :: ' ' :: prettyChars depth value ++
      (if rest.isEmpty then [] else ',' :: prettyMembers depth rest)

end

/-- The text of a tree, one item or member a line. -/
def prettyText (json : Json) : String :=
  String.ofList (json.prettyChars 0)

end Keyset.Json
