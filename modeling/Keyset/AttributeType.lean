import Keyset.FieldMap
import Keyset.ParseError
import Keyset.Text.Alphanumeric
import Keyset.Text.Blank

/-! # Types of attributes

A field may be declared with a type: a name, or a name in brackets for a list. Blanks in a
declaration do not count. `Keyset.AttributeType.parse` accepts the declarations of the grammar;
`Keyset.AttributeType.ofDeclaration` makes a type of every text, so that a text that starts with
a bracket declares a list.
-/

namespace Keyset

/-- The type of an attribute: values of a named type, or lists of them. -/
structure AttributeType where
  /-- The name of the type of the values or of the items. -/
  name : String
  /-- Whether the attribute holds lists. -/
  isList : Bool
deriving DecidableEq

namespace AttributeType

/-- The types whose literals are quoted. -/
def quotedNames : List String := ["String", "Date", "DateTime", "Time"]

/-- Whether the literals of one value, or of one item, are quoted. -/
def quotesElements (type : AttributeType) : Bool :=
  quotedNames.contains type.name

/-- The type of the items of a list, the type itself otherwise. -/
def element (type : AttributeType) : AttributeType :=
  ⟨type.name, false⟩

/-- Whether the literals of the type are quoted. Lists have no quoted literals of their own. -/
def isQuoted (type : AttributeType) : Bool :=
  !type.isList && type.quotesElements

/-- The text of a type. -/
def text (type : AttributeType) : String :=
  if type.isList then "[" ++ type.name ++ "]" else type.name

/-- The characters of type names. -/
def isNameChar (c : Char) : Bool :=
  Text.isAlphanumeric c || c == '_' || c == '!'

/-- A declaration without its blanks. -/
def compact (declaration : String) : List Char :=
  declaration.toList.filter fun c => !Text.isBlank c

/-- A type name, and the rest. -/
def readName? (text : List Char) : Option (String × List Char) :=
  match text.takeWhile isNameChar with
  | [] => none
  | name => some (String.ofList name, text.dropWhile isNameChar)

/-- A type at the start of a text without blanks, and the rest. -/
def readPrefix? (text : List Char) : Option (AttributeType × List Char) :=
  match text with
  | '[' :: inner =>
    match readName? inner with
    | some (name, ']' :: rest) => some (⟨name, true⟩, rest)
    | _ => none
  | _ => (readName? text).map fun (name, rest) => (⟨name, false⟩, rest)

/-- The type that a declaration of the grammar stands for. -/
def parse (declaration : String) : Except ParseError AttributeType :=
  let text := compact declaration
  ParseError.whole text (readPrefix? text)

/-- The type that any declaration is taken for: outside the grammar, a bracket at the start makes
a list, and the brackets at the end do not count. -/
def ofDeclaration (declaration : String) : AttributeType :=
  match parse declaration with
  | .ok type => type
  | .error _ =>
    match compact declaration with
    | '[' :: rest => ⟨String.ofList (rest.reverse.dropWhile (· == ']')).reverse, true⟩
    | name => ⟨String.ofList name, false⟩

end AttributeType

/-- The declarations of attributes by field name. -/
abbrev Declarations := FieldMap String

namespace Declarations

/-- The type of a declared field. -/
def type? (declarations : Declarations) (field : String) : Option AttributeType :=
  (declarations.get? field).map AttributeType.ofDeclaration

/-- Whether a field is declared to hold lists. -/
def isList (declarations : Declarations) (field : String) : Bool :=
  match declarations.type? field with
  | some type => type.isList
  | none => false

/-- Whether every declaration is one of the grammar, and the first error otherwise. -/
def validate (declarations : Declarations) : Except ParseError Unit :=
  declarations.members.forM fun member => (AttributeType.parse member.2).map fun _ => ()

end Declarations

end Keyset
