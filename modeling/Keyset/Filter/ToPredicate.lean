import Keyset.CompileError
import Keyset.Containment
import Keyset.Filter.Basic

/-! # Compiling filters to predicates

Every node of a filter becomes a predicate of the same shape (`Keyset.Filter.toPredicate`). A
filter may have sixty-four levels below its root, and four operators have no predicate.
Membership in a declared list is spelled out by patterns, unless the store has lists.
-/

namespace Keyset.Filter

/-- The operators that have a predicate. -/
def checkOperator (op : Operator) : Except CompileError Unit :=
  match op with
  | .contains => .error (.unsupported .predicate op)
  | .containsKey => .error (.unsupported .predicate op)
  | .tokenLt => .error (.unsupported .predicate op)
  | .tokenGt => .error (.unsupported .predicate op)
  | _ => .ok ()

/-- The patterns of a leaf, if its field is declared a list and the store has no lists. -/
def containment? (declarations : Declarations) (strategy : ArrayStrategy) (field : String)
    (op : Operator) (value : Value) : Option Predicate :=
  match strategy, declarations.type? field with
  | .delimited, some type =>
    if type.isList then Containment.predicate? field op value type else none
  | _, _ => none

/-- The predicate of a leaf. -/
def leafPredicate (declarations : Declarations) (strategy : ArrayStrategy) (field : String)
    (op : Operator) (value : Value) : Except CompileError Predicate :=
  match containment? declarations strategy field op value with
  | some patterns => .ok patterns
  | none => (checkOperator op).map fun _ => .compare field op value

/-- Predicates joined by an operator. A negation of several predicates is that of their
conjunction. -/
def combined (op : Operator) (parts : List Predicate) : Except CompileError Predicate :=
  match op with
  | .and => .ok (.and parts)
  | .or => .ok (.or parts)
  | .not =>
    match parts with
    | [part] => .ok (.not part)
    | parts => .ok (.not (.and parts))
  | op => .error (.notCombinator op)

/-- The predicate of a filter of at most so many levels. The parts of a combination are compiled
before its operator is looked at, those of a group after it. -/
def toPredicateWithin (declarations : Declarations) (strategy : ArrayStrategy) :
    (levels : Nat) → Filter → Except CompileError Predicate
  | 0, _ => .error .tooDeep
  | levels + 1, node =>
    match node.shape with
    | .empty => .ok .unconstrained
    | .global op _ => (checkOperator op).map fun _ => .global op node.parsedValue
    | .leaf field op _ => leafPredicate declarations strategy field op node.parsedValue
    | .combine op children => do
      let parts ← children.mapM (toPredicateWithin declarations strategy levels)
      combined op parts
    | .grouped field op children => do
      checkOperator op
      let parts ← children.mapM (toPredicateWithin declarations strategy levels)
      .ok (.within field op parts)

/-- The predicate of a filter. -/
def toPredicate (declarations : Declarations) (strategy : ArrayStrategy) (filter : Filter) :
    Except CompileError Predicate :=
  toPredicateWithin declarations strategy (maxFilterDepth + 1) filter

end Keyset.Filter
