import Keyset.Command.Arguments
import Keyset.Cursor
import Keyset.Decimal.Digits
import Keyset.Text.Blank

/-! # Commands

The commands of the program, and how a command line names one. A command line has options that
every command understands, before or after the name of the command; one that is given after it
replaces one that is given before.
-/

namespace Keyset

/-- How the cursor of a page is given. -/
inductive CursorSource
  /-- As the JSON of a record. -/
  | json (text : String)
  /-- As the token of a position. -/
  | token (token : String)

/-- A command of the program. -/
inductive Command
  /-- Compile a filter to a predicate. -/
  | filter (search : String) (nativeArrays : Bool)
  /-- Compile a filter to a CQL condition. -/
  | cql (search : String) (allowFiltering : Bool)
  /-- Compile the condition of a page. -/
  | page (direction : PageDirection) (order : String) (cursor : CursorSource) (inclusive : Bool)
  /-- Sort records. -/
  | order (records : String) (keys : List String) (limit : Option Nat)
  /-- Make a connection of records. -/
  | connection (records : String) (fields : List String) (hasMore : Bool)
  /-- Find the ids that are not among the existing ones. -/
  | missing (ids existing : List String)
  /-- List the operators. -/
  | operators

/-- A command, and the settings that the command line makes. -/
structure Invocation where
  config : Option String
  idField : Option String
  attributes : List (String × String)
  command : Command

namespace Command

/-- The number that a limit is written as. -/
def limit? (text : String) : Option Nat :=
  let digits :=
    match text.toList with
    | '+' :: digits => digits
    | digits => digits
  if digits.isEmpty || !digits.all Char.isDigit then none
  else
    let limit := Decimal.digitsValue digits
    if limit < Decimal.twoTo 64 then some limit else none

/-- The field and the declaration of an attribute, with an equals sign between them. -/
def attribute? (text : String) : Option (String × String) :=
  (Text.cutOnce? '=' text).map fun (field, declaration) =>
    (Text.trim field, Text.trim declaration)

/-- An option without a value. -/
def switch (name : String) (letter : Option Char) : OptionSpec :=
  ⟨name, letter, .switch, fun _ => true⟩

/-- An option with a value. -/
def single (name : String) (letter : Option Char) : OptionSpec :=
  ⟨name, letter, .single, fun _ => true⟩

/-- An option with a value each time. -/
def repeated (name : String) (letter : Option Char) : OptionSpec :=
  ⟨name, letter, .repeated, fun _ => true⟩

/-- The options that every command understands. -/
def commonOptions : List OptionSpec :=
  [⟨"config", some 'c', .single, fun path => !path.isEmpty⟩, single "id-attribute" none,
    ⟨"attr", none, .repeated, fun text => (attribute? text).isSome⟩, switch "verbose" (some 'v'),
    ⟨"help", some 'h', .stop .help, fun _ => true⟩]

/-- The arguments before the name of the command. -/
def outerLevel : Level :=
  ⟨⟨"version", some 'V', .stop .version, fun _ => true⟩ :: commonOptions, .leave⟩

/-- The arguments of the conditions of pages. -/
def pageOptions : List OptionSpec :=
  [single "order" (some 'o'), single "cursor" none, single "position" (some 'p'),
    switch "include-cursor" (some 'i')]

/-- The arguments after the name of a command. -/
def level? (name : String) : Option Level :=
  match name with
  | "filter" => some ⟨switch "native-arrays" none :: commonOptions, .atMost 1⟩
  | "cql" => some ⟨switch "allow-filtering" (some 'a') :: commonOptions, .atMost 1⟩
  | "after" => some ⟨pageOptions ++ commonOptions, .atMost 0⟩
  | "before" => some ⟨pageOptions ++ commonOptions, .atMost 0⟩
  | "order" =>
    some ⟨repeated "keys" (some 'k') ::
      ⟨"limit", some 'l', .single, fun text => (limit? text).isSome⟩ :: commonOptions, .atMost 1⟩
  | "connection" =>
    some ⟨repeated "keyset" none :: switch "has-more" none :: commonOptions, .atMost 1⟩
  | "missing" => some ⟨repeated "existing" (some 'e') :: commonOptions, .many⟩
  | "operators" => some ⟨commonOptions, .atMost 0⟩
  | _ => none

/-- What a command line that asks for help with names of commands stops with. -/
def helpStop : List String → Stop
  | [] => .help
  | [name] => if name = "help" || (level? name).isSome then .help else .usage
  | _ => .usage

/-- The only operand. -/
def operand (given : Given) : Except Stop String :=
  match given.operands with
  | [operand] => .ok operand
  | _ => .error .usage

/-- The items of values that are lists with commas between the items. -/
def items (values : List String) : List String :=
  values.flatMap (Text.cutString ',')

/-- The condition of a page. The cursor is given in one of two ways, and not in both. -/
def ofPage (direction : PageDirection) (given : Given) : Except Stop Command :=
  let inclusive := given.has "include-cursor"
  match given.value? "order", given.value? "cursor", given.value? "position" with
  | some levels, some json, none => .ok (page direction levels (.json json) inclusive)
  | some levels, none, some token => .ok (page direction levels (.token token) inclusive)
  | _, _, _ => .error .usage

/-- The command of a name and of what is given after it. -/
def ofGiven (name : String) (given : Given) : Except Stop Command :=
  match name with
  | "filter" => do .ok (filter (← operand given) (given.has "native-arrays"))
  | "cql" => do .ok (cql (← operand given) (given.has "allow-filtering"))
  | "after" => ofPage .forward given
  | "before" => ofPage .backward given
  | "order" => do
    .ok (order (← operand given) (items (given.values "keys"))
      ((given.value? "limit").bind limit?))
  | "connection" => do
    .ok (connection (← operand given) (items (given.values "keyset")) (given.has "has-more"))
  | "missing" => .ok (missing (items given.operands) (items (given.values "existing")))
  | "operators" => .ok operators
  | _ => .error .usage

end Command

namespace Invocation

open Command

/-- The values of an option that may stand on both sides of the name of the command. -/
def commonValues (outer inner : Given) (name : String) : List String :=
  if inner.has name then inner.values name else outer.values name

/-- The invocation of a command line. The environment may name a document of settings, for
either side of the name of the command that names none; it must not have an empty name. -/
def ofArguments (environment : Option String) (arguments : List String) :
    Except Stop Invocation := do
  let (outer, rest) ← outerLevel.read arguments
  match rest with
  | [] => .error .usage
  | "help" :: names => .error (helpStop names)
  | name :: rest =>
    match level? name with
    | none => .error .usage
    | some level =>
      let (inner, _) ← level.read rest
      let command ← ofGiven name inner
      if environment = some "" && !(outer.has "config" && inner.has "config") then .error .usage
      else .ok {
        config := (commonValues outer inner "config").head? <|> environment
        idField := (commonValues outer inner "id-attribute").head?
        attributes := (commonValues outer inner "attr").filterMap attribute?
        command := command }

end Invocation

end Keyset
