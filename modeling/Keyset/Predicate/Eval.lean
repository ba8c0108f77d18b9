import Keyset.Predicate.Basic
import Keyset.Predicate.Like
import Keyset.Record
import Keyset.Text.Casing

/-! # Evaluating predicates

Predicates are evaluated on a record from left to right (`Keyset.Predicate.eval`). A
conjunction stops at the first part that is false, a disjunction at the first that is true, and
both at the first part that cannot be evaluated. A comparison with null is false.
-/

namespace Keyset

/-- Why a predicate cannot be evaluated on a record. -/
inductive EvalError
  /-- An operator without a field. -/
  | withoutField (op : Operator)
  /-- An operator of a field across predicates. -/
  | within (op : Operator) (field : String)
  /-- An operator that compares with a list, on another value. -/
  | listExpected (op : Operator)
  /-- An operator that compares with two bounds, on another value. -/
  | boundsExpected (op : Operator)
  /-- An operator that has no evaluation. -/
  | unsupported (op : Operator)
deriving DecidableEq

/-- The sentence about the error. -/
def EvalError.message : EvalError → String
  | withoutField op =>
    "Evaluation error: global operator '" ++ op.name ++ "' has no field to evaluate"
  | within op field =>
    "Evaluation error: scoped operator '" ++ op.name ++ "' on '" ++ field ++
      "' cannot be evaluated in memory"
  | listExpected op => "Evaluation error: '" ++ op.name ++ "' expects a list value"
  | boundsExpected op => "Evaluation error: '" ++ op.name ++ "' expects two bounds"
  | unsupported op => "Evaluation error: operator '" ++ op.name ++ "' cannot be evaluated in memory"

namespace Predicate

/-- Whether two values compare as equal. -/
def areEqual (first second : Value) : Bool :=
  first.compare second == some .eq

/-- Whether the first value compares as equal to or greater than the second. -/
def isAtLeast (first second : Value) : Bool :=
  match first.compare second with
  | some .gt => true
  | some .eq => true
  | _ => false

/-- Whether the first value compares as equal to or less than the second. -/
def isAtMost (first second : Value) : Bool :=
  match first.compare second with
  | some .lt => true
  | some .eq => true
  | _ => false

/-- Whether a value is a string that matches a pattern, after both have been changed by
`normal`; nothing if one of them is no string. -/
def likeString? (normal : String → String) (actual expected : Value) : Option Bool := do
  let text ← actual.string?
  let pattern ← expected.string?
  some (Like.matchChars (normal text).toList (normal pattern).toList)

/-- Whether a value stands in the relation of the operator to the expected value. -/
def holds (actual : Value) (op : Operator) (expected : Value) : Except EvalError Bool :=
  match op with
  | .eq => .ok (areEqual actual expected)
  | .ne =>
    match actual.compare expected with
    | some order => .ok (order != .eq)
    | none => .ok false
  | .gt => .ok (actual.compare expected == some .gt)
  | .gte => .ok (isAtLeast actual expected)
  | .lt => .ok (actual.compare expected == some .lt)
  | .lte => .ok (isAtMost actual expected)
  | .isIn =>
    match expected with
    | .array items => .ok (items.any (areEqual actual))
    | _ => .error (.listExpected op)
  | .notIn =>
    match expected with
    | .array items => .ok (!items.any (areEqual actual) && !actual.isNull)
    | _ => .error (.listExpected op)
  | .like => .ok ((likeString? id actual expected).getD false)
  | .notLike => .ok (((likeString? id actual expected).map Bool.not).getD false)
  | .iLike => .ok ((likeString? Text.lower actual expected).getD false)
  | .notILike => .ok (((likeString? Text.lower actual expected).map Bool.not).getD false)
  | .between =>
    match expected with
    | .array [low, high] => .ok (isAtLeast actual low && isAtMost actual high)
    | _ => .error (.boundsExpected op)
  | .notBetween =>
    match expected with
    | .array [low, high] => .ok (!(isAtLeast actual low && isAtMost actual high))
    | _ => .error (.boundsExpected op)
  | .is => .ok (actual.same expected)
  | op => .error (.unsupported op)

mutual

/-- Whether a record satisfies a predicate. -/
def eval (record : Record) : Predicate → Except EvalError Bool
  | unconstrained => .ok true
  | and parts => evalAll record parts
  | or parts => evalAny record parts
  | not part => (eval record part).map Bool.not
  | compare field op value => holds (record.value field) op value
  | global op _ => .error (.withoutField op)
  | within field op _ => .error (.within op field)

/-- Whether a record satisfies all predicates of a list, up to the first that is false. -/
def evalAll (record : Record) : List Predicate → Except EvalError Bool
  | [] => .ok true
  | part :: rest => do if ← eval record part then evalAll record rest else .ok false

/-- Whether a record satisfies a predicate of a list, up to the first that is true. -/
def evalAny (record : Record) : List Predicate → Except EvalError Bool
  | [] => .ok false
  | part :: rest => do if ← eval record part then .ok true else evalAny record rest

end

/-- The records that satisfy a predicate, in their order. -/
def select (predicate : Predicate) : List Record → Except EvalError (List Record)
  | [] => .ok []
  | record :: rest => do
    let hit ← eval record predicate
    let others ← select predicate rest
    .ok (if hit then record :: others else others)

end Predicate

end Keyset
