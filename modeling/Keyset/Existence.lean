import Keyset.Filter.ToPredicate
import Keyset.Predicate.Eval

/-! # Which ids are missing

The number of records with an id is looked up for every id of a list. The lookups are started
together and end in any order; the answer is taken when the last one has ended
(`Keyset.Existence.Batch.result?`). If a lookup fails, the answer is the failure of the first id
whose lookup failed; otherwise it is the list of the ids that no record has.
-/

namespace Keyset

/-- A failed lookup: the id and what was said about it. -/
structure ExistenceError where
  id : String
  cause : String
deriving DecidableEq

/-- The sentence about the error. -/
def ExistenceError.message (error : ExistenceError) : String :=
  "Existence check failed for id " ++ error.id ++ ": " ++ error.cause

/-- The error of a failed lookup, given the texts of ids and of causes. -/
def ExistenceError.ofFailure {ι ε : Type} (idText : ι → String) (causeText : ε → String)
    (failure : ι × ε) : ExistenceError :=
  ⟨idText failure.1, causeText failure.2⟩

namespace Existence

variable {ι ε : Type}

/-- A lookup that has been started for an id, with its outcome once it has ended. -/
structure Lookup (ι ε : Type) where
  id : ι
  outcome : Option (Except ε Nat)

/-- The lookups of a list of ids, in the order of the ids. -/
abbrev Batch (ι ε : Type) := List (Lookup ι ε)

/-- One lookup is started for every id. -/
def Batch.start (ids : List ι) : Batch ι ε :=
  ids.map fun id => ⟨id, none⟩

/-- The lookup at an index ends. -/
def Batch.finish (batch : Batch ι ε) (index : Nat) (outcome : Except ε Nat) : Batch ι ε :=
  batch.modify index fun lookup => { lookup with outcome := some outcome }

/-- The ids without records, or the first failure. -/
def settle : List (ι × Except ε Nat) → Except (ι × ε) (List ι)
  | [] => .ok []
  | (id, .error cause) :: _ => .error (id, cause)
  | (id, .ok count) :: rest => do
    let absent ← settle rest
    .ok (if count = 0 then id :: absent else absent)

/-- The answer, once every lookup has ended. -/
def Batch.result? (batch : Batch ι ε) : Option (Except (ι × ε) (List ι)) := do
  let outcomes ← batch.mapM fun lookup => lookup.outcome.map fun outcome => (lookup.id, outcome)
  some (settle outcomes)

/-- The answer with its error, once every lookup has ended. -/
def Batch.answer? (idText : ι → String) (causeText : ε → String) (batch : Batch ι ε) :
    Option (Except ExistenceError (List ι)) :=
  batch.result?.map fun result => result.mapError (.ofFailure idText causeText)

/-- The ids that no record has, `count` being the outcome of the lookup of an id. -/
def missing (ids : List ι) (count : ι → Except ε Nat) : Except (ι × ε) (List ι) :=
  settle (ids.map fun id => (id, count id))

/-- How many records of a store satisfy a predicate. -/
def countMatching (predicate : Predicate) (store : List Record) : Except EvalError Nat :=
  (predicate.select store).map List.length

/-- Why a lookup in a store failed. -/
inductive LookupError
  | compile (error : CompileError)
  | eval (error : EvalError)

/-- The sentence about the error. -/
def LookupError.message : LookupError → String
  | compile error => error.message
  | eval error => error.message

/-- How many records of a store have an id. -/
def countId (declarations : Declarations) (idField : String) (store : List Record) (id : Value) :
    Except LookupError Nat := do
  let predicate ← ((Filter.ofId idField id).toPredicate declarations .delimited).mapError .compile
  (countMatching predicate store).mapError .eval

/-- The ids that no record of a store has. -/
def missingFrom (declarations : Declarations) (idField : String) (store : List Record)
    (ids : List Value) : Except ExistenceError (List Value) :=
  (missing ids (countId declarations idField store)).mapError
    (.ofFailure Value.rawText LookupError.message)

end Existence

end Keyset
