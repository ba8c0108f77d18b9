import Keyset.Decimal.Layout
import Keyset.Value.Basic

/-! # Texts of values

A value has a bare text, without quotes and with the items of a list between commas
(`Keyset.Value.rawText`), and a text for display, in which strings and timestamps are quoted and
lists bracketed (`Keyset.Value.display`).
-/

namespace Keyset.Value

/-- Doubles are displayed with all their places and without a superfluous point; ties go up. -/
def floatLayout : Decimal.Layout where
  positional _ := true
  pointZero := false
  tie := .up

/-- The text of a double. -/
def floatText (x : Float) : String :=
  if x.isNaN then "NaN"
  else if x.isInf then if x < 0.0 then "-inf" else "inf"
  else String.ofList (floatLayout.chars x)

/-- The text of a whole number. -/
def intText (n : Int64) : String :=
  let digits := Nat.toDigits 10 n.toInt.natAbs
  String.ofList (if n.toInt < 0 then '-' :: digits else digits)

/-- The text of a truth value. -/
def boolText (b : Bool) : String :=
  if b then "true" else "false"

mutual

/-- The text of a value without any quotes. -/
def rawText : Value → String
  | null => "null"
  | bool b => boolText b
  | int n => intText n
  | float x => floatText x
  | string s => s
  | array items => ",".intercalate (rawTexts items)
  | timestamp t => t.text .digits

def rawTexts : List Value → List String
  | [] => []
  | item :: rest => rawText item :: rawTexts rest

end

mutual

/-- The text of a value for display. -/
def display : Value → String
  | null => "NULL"
  | bool b => boolText b
  | int n => intText n
  | float x => floatText x
  | string s => "'" ++ s ++ "'"
  | array items => "[" ++ ", ".intercalate (displays items) ++ "]"
  | timestamp t => "'" ++ t.text .digits ++ "'"

def displays : List Value → List String
  | [] => []
  | item :: rest => display item :: displays rest

end

end Keyset.Value
