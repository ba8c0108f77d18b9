import Keyset.AttributeType
import Keyset.Predicate.Basic

/-! # Containment in delimited lists

A store without list columns keeps a list as the text of its items between brackets, with commas
between them. An item is then found by four patterns: it is the only item, the first, one in the
middle or the last.
-/

namespace Keyset

/-- How membership in a declared list is compiled. -/
inductive ArrayStrategy
  /-- Lists are stored as delimited text: patterns. -/
  | delimited
  /-- Lists are stored as lists: a plain comparison. -/
  | native
deriving DecidableEq

namespace ArrayStrategy

/-- The name of a strategy. -/
def name : ArrayStrategy → String
  | delimited => "delimited_string"
  | native => "native"

/-- The strategy of that name. -/
def ofName? (name : String) : Option ArrayStrategy :=
  if name = "native" then some native
  else if name = "delimited_string" then some delimited
  else none

end ArrayStrategy

namespace Containment

/-- The patterns that find an item in the text of a list. -/
structure Patterns where
  sole : String
  first : String
  middle : String
  last : String

/-- The patterns of the text of an item. -/
def Patterns.ofElement (element : String) : Patterns where
  sole := "[" ++ element ++ "]"
  first := "[" ++ element ++ ",%"
  middle := "%," ++ element ++ ",%"
  last := "%," ++ element ++ "]"

/-- A field compared with a pattern. -/
def comparison (field : String) (op : Operator) (pattern : String) : Predicate :=
  .compare field op (.string pattern)

/-- One of the patterns matches. -/
def Patterns.membership (patterns : Patterns) (field : String) : Predicate :=
  .or [comparison field .eq patterns.sole, comparison field .like patterns.first,
    comparison field .like patterns.middle, comparison field .like patterns.last]

/-- None of the patterns matches. -/
def Patterns.exclusion (patterns : Patterns) (field : String) : Predicate :=
  .and [comparison field .ne patterns.sole, comparison field .notLike patterns.first,
    comparison field .notLike patterns.middle, comparison field .notLike patterns.last]

/-- The text of one value in the text of a list. -/
def itemText (quoted : Bool) (value : Value) : String :=
  if quoted then "\"" ++ value.rawText ++ "\"" else value.rawText

/-- The text of a value in the text of a list, the items of a list having commas between them. -/
def elementText (type : AttributeType) (value : Value) : String :=
  match value with
  | .array items => ",".intercalate (items.map (itemText type.isQuoted))
  | value => itemText type.isQuoted value

/-- Membership of a value in a declared list, or its opposite, if the operator is one of these. -/
def predicate? (field : String) (op : Operator) (value : Value) (type : AttributeType) :
    Option Predicate :=
  let patterns := Patterns.ofElement (elementText type.element value)
  match op with
  | .isIn => some (patterns.membership field)
  | .notIn => some (patterns.exclusion field)
  | _ => none

end Containment

end Keyset
