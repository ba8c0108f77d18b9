import Keyset.Cql
import Keyset.Filter.ToPredicate

/-! # Reference of operators

A table of the operators with their symbols, and whether each backend can express them.
-/

namespace Keyset.Operator

/-- The smallest filter with the operator. -/
def sample (op : Operator) : Filter :=
  if op.isLogical then .combine op [.leaf "f" .eq (.int 1)] else .leaf "f" op (.int 1)

/-- Whether there are predicates with the operator. -/
def hasPredicate (op : Operator) : Bool :=
  (op.sample.toPredicate .empty .delimited).isOk

/-- Whether there are CQL conditions with the operator. -/
def hasCql (op : Operator) : Bool :=
  (Cql.condition .empty false op.sample).isOk

/-- A text with blanks behind it up to a width. -/
def column (width : Nat) (text : String) : String :=
  text.pushn ' ' (width - text.length)

/-- A line of the table. -/
def tableLine (name symbol predicate cql : String) : String :=
  column 12 name ++ " " ++ column 14 symbol ++ " " ++ column 10 predicate ++ " " ++ cql ++ "\n"

/-- The mark of an answer. -/
def mark (answer : Bool) : String :=
  if answer then "✓" else "✗"

/-- The line of an operator. -/
def referenceLine (op : Operator) : String :=
  tableLine op.name op.symbol (mark op.hasPredicate) (mark op.hasCql)

/-- The table. -/
def reference : String :=
  "SiftQL Operator Reference\n\n" ++ tableLine "Operator" "Symbol" "Predicate" "CQL" ++
    "".pushn '─' 50 ++ "\n" ++ String.join (all.map referenceLine)

end Keyset.Operator
