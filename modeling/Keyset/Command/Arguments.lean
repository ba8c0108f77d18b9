import Keyset.Text.Split

/-! # Options and operands

Arguments are options and operands. An option is named by a word after two dashes or by a letter
after one. Switches may share a dash. The value of an option follows it in the same argument,
with an equals sign between them, or is the next argument, which must not look like an option.
After two dashes alone, all arguments are operands.
-/

namespace Keyset.Command

/-- Why arguments give nothing to run. -/
inductive Stop
  /-- They are not used as the program expects. -/
  | usage
  /-- They ask for the usage of the program. -/
  | help
  /-- They ask for the version of the program. -/
  | version
deriving DecidableEq

/-- How an option is given. -/
inductive OptionKind
  /-- Without a value, at most once. -/
  | switch
  /-- With a value, at most once. -/
  | single
  /-- With a value each time. -/
  | repeated
  /-- Without a value, in place of everything else. -/
  | stop (reason : Stop)
deriving DecidableEq

/-- Whether options of the kind have a value. -/
def OptionKind.hasValue : OptionKind → Bool
  | single => true
  | repeated => true
  | switch => false
  | stop _ => false

/-- An option. -/
structure OptionSpec where
  name : String
  letter : Option Char
  kind : OptionKind
  /-- The values that the option may have. -/
  accepts : String → Bool

/-- How many operands there may be. -/
inductive Operands
  | atMost (count : Nat)
  | many
  /-- The first operand ends the reading. -/
  | leave

/-- The arguments that a program or one of its commands understands. -/
structure Level where
  options : List OptionSpec
  operands : Operands

/-- The options with their values, and the operands, in the order given. -/
structure Given where
  options : List (String × String)
  operands : List String

namespace Given

/-- Nothing given. -/
def nothing : Given :=
  ⟨[], []⟩

/-- The values of an option. -/
def values (given : Given) (name : String) : List String :=
  (given.options.filter fun option => option.1 = name).map Prod.snd

/-- The value of an option. -/
def value? (given : Given) (name : String) : Option String :=
  (given.values name).head?

/-- Whether an option is given. -/
def has (given : Given) (name : String) : Bool :=
  given.options.any fun option => option.1 = name

/-- The options with one more. -/
def addOption (given : Given) (spec : OptionSpec) (value : String) : Except Stop Given :=
  match spec.kind with
  | .stop reason => .error reason
  | kind =>
    if !spec.accepts value then .error .usage
    else if kind ≠ .repeated && given.has spec.name then .error .usage
    else .ok { given with options := given.options ++ [(spec.name, value)] }

/-- The operands with one more. -/
def addOperand (given : Given) (operands : Operands) (operand : String) : Except Stop Given :=
  match operands with
  | .many => .ok { given with operands := given.operands ++ [operand] }
  | .atMost count =>
    if given.operands.length < count then
      .ok { given with operands := given.operands ++ [operand] }
    else .error .usage
  | .leave => .error .usage

end Given

/-- What is given up to some argument, and the option that the next argument is the value of. -/
abbrev Progress := Given × Option OptionSpec

/-- The argument of an option by its word. -/
def readWord (options : List OptionSpec) (given : Given) (word : String) :
    Except Stop Progress := do
  let (name, value) :=
    match Text.cutOnce? '=' word with
    | some (name, value) => (name, some value)
    | none => (word, none)
  match options.find? fun spec => spec.name = name with
  | none => .error .usage
  | some spec =>
    match spec.kind.hasValue, value with
    | true, none => .ok (given, some spec)
    | true, some value => (given.addOption spec value).map fun given => (given, none)
    | false, none => (given.addOption spec "").map fun given => (given, none)
    | false, some _ => .error .usage

/-- The letters of an argument. An option with a value takes the letters after it. -/
def readLetters (options : List OptionSpec) (given : Given) :
    List Char → Except Stop Progress
  | [] => .ok (given, none)
  | letter :: rest =>
    match options.find? fun spec => spec.letter = some letter with
    | none => .error .usage
    | some spec =>
      match spec.kind.hasValue, rest with
      | true, [] => .ok (given, some spec)
      | true, '=' :: value =>
        (given.addOption spec (String.ofList value)).map fun given => (given, none)
      | true, value =>
        (given.addOption spec (String.ofList value)).map fun given => (given, none)
      | false, rest => do
        let given ← given.addOption spec ""
        readLetters options given rest

/-- The arguments of a level, and those that are left to another level. -/
def readFrom (level : Level) :
    List String → Progress → Except Stop (Given × List String)
  | [], (given, none) => .ok (given, [])
  | [], (_, some _) => .error .usage
  | argument :: rest, (given, waiting) =>
    match argument.toList, waiting with
    | ['-', '-'], none => do
      let given ← rest.foldlM (fun given operand => given.addOperand level.operands operand) given
      .ok (given, [])
    | '-' :: '-' :: word, none => do
      let progress ← readWord level.options given (String.ofList word)
      readFrom level rest progress
    | '-' :: letter :: letters, none => do
      let progress ← readLetters level.options given (letter :: letters)
      readFrom level rest progress
    | '-' :: _ :: _, some _ => .error .usage
    | _, some spec => do
      let given ← given.addOption spec argument
      readFrom level rest (given, none)
    | _, none =>
      match level.operands with
      | .leave => .ok (given, argument :: rest)
      | operands => do
        let given ← given.addOperand operands argument
        readFrom level rest (given, none)

/-- The arguments of a level, and those that are left to another level. -/
def Level.read (level : Level) (arguments : List String) : Except Stop (Given × List String) :=
  readFrom level arguments (.nothing, none)

end Keyset.Command
