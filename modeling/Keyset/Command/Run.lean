import Keyset.Command.Basic
import Keyset.Command.Reference
import Keyset.Error
import Keyset.Filter.Wire
import Keyset.Order.Parser
import Keyset.Page

/-! # Running commands

A command runs on the settings of a document and of the command line, and answers with a text
(`Keyset.Invocation.run`). Nothing is written before a command has succeeded.
-/

namespace Keyset

/-- Why a command fails. -/
inductive Command.Failure
  /-- The named document gives no settings. -/
  | config (path : String)
  /-- The search is no filter. -/
  | search
  /-- The records are no list of records. -/
  | records
  /-- The cursor is no record. -/
  | cursor
  | other (cause : Error)

/-- The sentence about a failure. -/
def Command.Failure.message : Command.Failure → String
  | config path => "reading " ++ path
  | search => "parsing search tree"
  | records => "parsing records"
  | cursor => "parsing cursor"
  | other cause => cause.message

namespace Command

/-- The text of a JSON tree on lines of their own. -/
def prettyLines (json : Json) : String :=
  json.prettyText ++ "\n"

/-- The answer of a predicate. -/
def predicateLines (predicate : Predicate) : String :=
  "Predicate:\n" ++ predicate.text ++ "\n\n" ++ prettyLines predicate.toJson

/-- The warning above a predicate that is no constraint. -/
def warningLine (predicate : Predicate) : String :=
  if predicate.isUnconstrained then "⚠ No cursor constraint applied (see warnings)\n" else ""

/-- The filter of a JSON text. -/
def readFilter (text : String) : Except Failure Filter :=
  match Filter.ofText? text with
  | some tree => .ok tree
  | none => .error .search

/-- The records of a JSON text. -/
def readRecords (text : String) : Except Failure (List Record) :=
  match (Json.ofText? text).bind Record.listOfJson? with
  | some list => .ok list
  | none => .error .records

/-- The cursor of a page. -/
def readCursor : CursorSource → Except Failure Cursor
  | .json text =>
    match (Json.ofText? text).bind Record.ofJson? with
    | some cursor => .ok cursor
    | none => .error .cursor
  | .token token => (Position.decode token).mapError fun error => .other (.position error)

/-- The fields of position tokens: all, if none is named. -/
def positionFields (fields : List String) : PositionFields :=
  if fields.isEmpty then .all else .named fields

/-- The answer of the ids that are missing. -/
def missingLine (absent : List Value) : String :=
  if absent.isEmpty then "✓ All ids exist\n"
  else "Missing: " ++ ", ".intercalate (absent.map Value.rawText) ++ "\n"

/-- The answer of a command under settings. -/
def run (config : Config) : Command → Except Failure String
  | filter search nativeArrays => do
    let tree ← readFilter search
    let arrays := if nativeArrays then .native else config.arrays
    let predicate ← (tree.toPredicate config.attributes arrays).mapError fun error =>
      .other (.compile error)
    .ok (predicateLines predicate)
  | cql search allowFiltering => do
    let tree ← readFilter search
    let condition ← (Cql.condition config.attributes (allowFiltering || config.allowFiltering)
      tree).mapError fun error => .other (.compile error)
    .ok ("CQL:\n" ++ condition ++ "\n")
  | page direction levels source inclusive => do
    let order ← (Order.parse levels).mapError fun error => .other (.parse error)
    let cursor ← readCursor source
    let place := CursorCondition.mk order cursor config.idField
      (inclusive || config.includeCursor) config.fallback
    let predicate ← (place.build direction).mapError fun defect => .other (.cursor defect)
    .ok (warningLine predicate ++ predicateLines predicate)
  | order records keys limit => do
    let records ← readRecords records
    let keys ← (keys.mapM SortKey.ofText).mapError fun error => .other (.order error)
    let page := upTo limit (Sorting.sort keys records)
    .ok (prettyLines (.array (page.map Record.toJson)))
  | connection records fields hasMore => do
    let records ← readRecords records
    .ok (prettyLines (Connection.assemble (positionFields fields) hasMore records).toJson)
  | missing ids existing => do
    let store := existing.map fun id => FieldMap.ofList [(config.idField, Value.string id)]
    let absent ← (Existence.missingFrom config.attributes config.idField store
      (ids.map Value.string)).mapError fun error => .other (.existence error)
    .ok (missingLine absent)
  | operators => .ok Operator.reference

end Command

namespace Invocation

/-- The paths where the document of settings may be, the first that exists counting. Settings
that no one names may lie in the working directory and in that of the user. -/
def configPaths (invocation : Invocation) (userDirectory : Option String) : List String :=
  match invocation.config with
  | some path => [path]
  | none =>
    "siftql.toml" :: (userDirectory.map fun path => path ++ "/siftql/siftql.toml").toList

/-- The settings of the document, if there is one. A named document has to exist. -/
def documentSettings (invocation : Invocation) (document : Option String) :
    Except Command.Failure Config :=
  match invocation.config, document with
  | none, none => .ok .default
  | none, some text => (Config.ofToml text).mapError fun error => .other (.config error)
  | some path, none => .error (.config path)
  | some path, some text => (Config.ofToml text).mapError fun _ => .config path

/-- The settings of the document with those of the command line. -/
def settings (invocation : Invocation) (document : Option String) :
    Except Command.Failure Config := do
  let config ← invocation.documentSettings document
  .ok { config with
    idField := invocation.idField.getD config.idField
    attributes := invocation.attributes.foldl
      (fun attributes member => attributes.insert member.1 member.2) config.attributes }

/-- The answer of an invocation, given the document of settings if one exists. -/
def run (invocation : Invocation) (document : Option String) : Except Command.Failure String := do
  let config ← invocation.settings document
  invocation.command.run config

end Invocation

end Keyset
