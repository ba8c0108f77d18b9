import Keyset.Config
import Keyset.Connection
import Keyset.Existence

/-! # Errors

What may go wrong in any part of the library, by its cause. Every error has a sentence
(`Keyset.Error.message`).
-/

namespace Keyset

/-- The sentence about a tree or a text that does not describe what it is read as. -/
def Json.Mismatch.message : Json.Mismatch → String
  | shape => "JSON error"
  | unknownOperator name => "JSON error: Unknown operator: '" ++ name ++ "'"
  | unknownDirection token => "JSON error: " ++ (OrderError.direction token).message

/-- The cause of a failure. -/
inductive Error
  /-- There is no operator of that name. -/
  | unknownOperator (name : String)
  | json (mismatch : Json.Mismatch)
  | order (error : OrderError)
  | parse (error : ParseError)
  | compile (error : CompileError)
  | eval (error : EvalError)
  | cursor (defect : CursorDefect)
  | position (error : PositionError)
  | existence (error : ExistenceError)
  | config (error : ConfigError)
deriving DecidableEq

/-- The sentence about an error. -/
def Error.message : Error → String
  | unknownOperator name => "Unknown operator: '" ++ name ++ "'"
  | json mismatch => mismatch.message
  | order error => error.message
  | parse error => error.message
  | compile error => error.message
  | eval error => error.message
  | cursor defect => defect.message
  | position error => error.message
  | existence error => error.message
  | config error => error.message

/-- The operator of that name, or an error with the name. -/
def Operator.ofName (name : String) : Except Error Operator :=
  match ofName? name with
  | some op => .ok op
  | none => .error (.unknownOperator name)

end Keyset
