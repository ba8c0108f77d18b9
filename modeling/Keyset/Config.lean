import Keyset.AttributeType
import Keyset.Containment
import Keyset.Cursor
import Keyset.Toml.Reader

/-! # Settings

The settings of a user: the field of the ids, how pages start, how conditions are compiled, and
the types of the attributes. They are read from a TOML document, in which every setting may be
left out and other keys are passed over (`Keyset.Config.ofToml`).
-/

namespace Keyset

/-- The settings. -/
structure Config where
  idField : String
  includeCursor : Bool
  allowFiltering : Bool
  fallback : Fallback
  arrays : ArrayStrategy
  attributes : Declarations

/-- Why a document gives no settings. -/
inductive ConfigError
  /-- The text is no document, or a setting has a value of another kind. -/
  | malformed
  /-- The field of the ids has no name. -/
  | emptyIdField
  /-- A declaration of an attribute is not one of the grammar. -/
  | declaration (error : ParseError)
deriving DecidableEq

/-- The sentence about the error. -/
def ConfigError.message : ConfigError → String
  | malformed => "Configuration error"
  | emptyIdField => "Configuration error: id_attribute must not be empty"
  | declaration error => "Configuration error: " ++ error.message

namespace Config

/-- The settings of an empty document. -/
def default : Config where
  idField := "id"
  includeCursor := false
  allowFiltering := false
  fallback := .unconstrained
  arrays := .delimited
  attributes := .empty

instance : Inhabited Config := ⟨default⟩

/-- The name of a member of an enumeration: a string, or the key of a table whose value is
empty. -/
def variant? : Toml → Option String
  | .string name => some name
  | .table _ [(name, .table _ [])] => some name
  | .table _ [(name, .array [])] => some name
  | _ => none

/-- The string of a TOML value. -/
def string? : Toml → Option String
  | .string s => some s
  | _ => none

/-- The declarations of a table of strings. -/
def declarations? : Toml → Option Declarations
  | .table _ members =>
    (members.mapM fun member => (string? member.2).map fun text => (member.1, text)).map
      FieldMap.ofList
  | _ => none

/-- The settings with one setting of a document. -/
def withSetting? (config : Config) (key : String) (value : Toml) : Option Config :=
  match key, value with
  | "id_attribute", .string field => some { config with idField := field }
  | "include_cursor", .bool b => some { config with includeCursor := b }
  | "allow_filtering", .bool b => some { config with allowFiltering := b }
  | "malformed_cursor", value => do
    let fallback ← (variant? value).bind Fallback.ofName?
    some { config with fallback := fallback }
  | "array_strategy", value => do
    let arrays ← (variant? value).bind ArrayStrategy.ofName?
    some { config with arrays := arrays }
  | "attributes", value => do
    let attributes ← declarations? value
    some { config with attributes := attributes }
  | "id_attribute", _ => none
  | "include_cursor", _ => none
  | "allow_filtering", _ => none
  | _, _ => some config

/-- Settings that can be used: the field of the ids has a name, and the declarations are of the
grammar. -/
def validate (config : Config) : Except ConfigError Config :=
  if (Text.trim config.idField).isEmpty then .error .emptyIdField
  else
    match config.attributes.validate with
    | .ok () => .ok config
    | .error error => .error (.declaration error)

/-- The settings of a document. -/
def ofToml (text : String) : Except ConfigError Config :=
  let settings := (Toml.read? text).bind fun members =>
    members.foldlM (fun config member => config.withSetting? member.1 member.2) default
  match settings with
  | none => .error .malformed
  | some config => config.validate

end Config

end Keyset
