/-! # Operators

The vocabulary of filters and predicates. Each operator has a name, under which it is written
and read, and a symbol for display. The names are distinct, so reading a name gives back the
operator that is written by it (`Keyset.Operator.ofName?_name`).
-/

namespace Keyset

/-- A filter operator. -/
inductive Operator
  /-- Equal. -/
  | eq
  /-- Not equal. -/
  | ne
  /-- Greater. -/
  | gt
  /-- Greater or equal. -/
  | gte
  /-- Less. -/
  | lt
  /-- Less or equal. -/
  | lte
  /-- One of a list. -/
  | isIn
  /-- None of a list. -/
  | notIn
  /-- Matching a pattern. -/
  | like
  /-- Not matching a pattern. -/
  | notLike
  /-- Matching a pattern in any case. -/
  | iLike
  /-- Not matching a pattern in any case. -/
  | notILike
  /-- Matching a regular expression. -/
  | regexp
  /-- Not matching a regular expression. -/
  | notRegexp
  /-- Within two bounds. -/
  | between
  /-- Not within two bounds. -/
  | notBetween
  /-- Being the same value. -/
  | is
  /-- Negation. -/
  | not
  /-- Conjunction. -/
  | and
  /-- Disjunction. -/
  | or
  /-- A collection containing a value. -/
  | contains
  /-- A map containing a key. -/
  | containsKey
  /-- A smaller partition token. -/
  | tokenLt
  /-- A greater partition token. -/
  | tokenGt
deriving DecidableEq

namespace Operator

/-- Every operator, in the order of reference. -/
def all : List Operator := [eq, ne, gt, gte, lt, lte, isIn, notIn, like, notLike, iLike, notILike,
  regexp, notRegexp, between, notBetween, is, not, and, or, contains, containsKey, tokenLt, tokenGt]

/-- The name of an operator in filters. -/
def name : Operator → String
  | eq => "eq"
  | ne => "ne"
  | gt => "gt"
  | gte => "gte"
  | lt => "lt"
  | lte => "lte"
  | isIn => "in"
  | notIn => "notIn"
  | like => "like"
  | notLike => "notLike"
  | iLike => "iLike"
  | notILike => "notILike"
  | regexp => "regexp"
  | notRegexp => "notRegexp"
  | between => "between"
  | notBetween => "notBetween"
  | is => "is"
  | not => "not"
  | and => "and"
  | or => "or"
  | contains => "cont"
  | containsKey => "ctk"
  | tokenLt => "tlt"
  | tokenGt => "tgt"

/-- The symbol of an operator for display. -/
def symbol : Operator → String
  | eq => "="
  | ne => "!="
  | gt => ">"
  | gte => ">="
  | lt => "<"
  | lte => "<="
  | isIn => "IN"
  | notIn => "NOT IN"
  | like => "LIKE"
  | notLike => "NOT LIKE"
  | iLike => "ILIKE"
  | notILike => "NOT ILIKE"
  | regexp => "REGEXP"
  | notRegexp => "NOT REGEXP"
  | between => "BETWEEN"
  | notBetween => "NOT BETWEEN"
  | is => "IS"
  | not => "NOT"
  | and => "AND"
  | or => "OR"
  | contains => "CONTAINS"
  | containsKey => "CONTAINS KEY"
  | tokenLt => "<"
  | tokenGt => ">"

/-- The member name of an operator in the JSON of a predicate. -/
def key (op : Operator) : String :=
  "$" ++ op.name

/-- The operators that join predicates. -/
def isLogical : Operator → Bool
  | and => true
  | or => true
  | not => true
  | _ => false

/-- The operator of that name. Membership in a list has a second name. -/
def ofName? (name : String) : Option Operator :=
  if name = "_in" then some isIn else all.find? fun op => op.name = name

/-- The name of an operator reads back as the operator. -/
theorem ofName?_name (op : Operator) : ofName? op.name = some op := by
  cases op <;> rfl

end Operator

end Keyset
