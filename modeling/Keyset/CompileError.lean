import Keyset.Operator

/-! # Errors of compiling filters

A backend may lack an operator or a form of filter. Every error names the backend.
-/

namespace Keyset

/-- What a filter is compiled for. -/
inductive Backend
  /-- Predicates, which nest freely. -/
  | predicate
  /-- Flat CQL conditions. -/
  | cql
deriving DecidableEq

/-- The name of a backend. -/
def Backend.name : Backend → String
  | predicate => "predicate backend"
  | cql => "CQL"

/-- How many levels a filter may have below its root. -/
def maxFilterDepth : Nat := 64

/-- Why a filter cannot be compiled. -/
inductive CompileError
  /-- The backend lacks the operator. -/
  | unsupported (backend : Backend) (op : Operator)
  /-- The operator joins no nodes. -/
  | notCombinator (op : Operator)
  /-- The filter has too many levels. -/
  | tooDeep
  /-- A condition of a flat backend without a field. -/
  | withoutField (op : Operator)
  /-- A conjunction inside a conjunction of a flat backend. -/
  | nestedConjunction
  /-- Nodes under a field, for a flat backend. -/
  | grouped (op : Operator) (field : String)
  /-- A conjunction with a value in place of its parts. -/
  | missingChildren (op : Operator)
deriving DecidableEq

namespace CompileError

/-- The sentence about a form of filter. -/
def structureMessage (backend : Backend) (detail : String) : String :=
  "Statement not supported by " ++ backend.name ++ ": " ++ detail

/-- The sentence about the error. -/
def message : CompileError → String
  | unsupported backend op => "Operator '" ++ op.name ++ "' not supported by " ++ backend.name
  | notCombinator op =>
    "Operator '" ++ op.name ++ " (as a combinator)' not supported by " ++ Backend.predicate.name
  | tooDeep =>
    structureMessage .predicate
      ("filter nested deeper than " ++ toString maxFilterDepth ++ " levels")
  | withoutField op => structureMessage .cql ("operator '" ++ op.name ++ "' without a field")
  | nestedConjunction =>
    structureMessage .cql "nested 'and' groups; only a conjunction of relations is allowed"
  | grouped op field =>
    structureMessage .cql ("operator '" ++ op.name ++ "' grouped under field '" ++ field ++ "'")
  | missingChildren op =>
    "Operator '" ++ op.name ++ "' can only be used with a list of search terms"

end CompileError

end Keyset
