/-! # TOML documents

A TOML document is a table: keys with values, which may be tables again. How a table came about
decides what may still be added to it, so a table keeps that (`Keyset.Toml.Origin`).
`Keyset.Toml.insert?` and `Keyset.Toml.openTable?` add to a document under the rule that nothing
is defined twice.
-/

namespace Keyset

/-- How a table came about. -/
inductive Toml.Origin
  /-- A header names it. -/
  | header
  /-- It lies on the path of a header. -/
  | implied
  /-- It lies on the path of a dotted key. -/
  | dotted
  /-- It is written between braces, and complete. -/
  | inline
deriving DecidableEq

/-- A value of a document. Numbers and dates are told apart from other values only. -/
inductive Toml
  | string (s : String)
  | bool (b : Bool)
  | number
  | date
  | array (items : List Toml)
  | table (origin : Toml.Origin) (members : List (String × Toml))
  /-- The tables of a repeated header, the last one first. -/
  | tables (last : List (String × Toml)) (earlier : List (List (String × Toml)))

namespace Toml

/-- The members of a table. -/
abbrev Members := List (String × Toml)

/-- The value of a key. -/
def find? (members : Members) (key : String) : Option Toml :=
  (members.find? fun member => member.1 = key).map Prod.snd

/-- The members with the value of a key replaced. -/
def replace (members : Members) (key : String) (value : Toml) : Members :=
  members.map fun member => if member.1 = key then (key, value) else member

/-- Change the table at the path of a header; tables that the path lacks are implied. -/
def atHeader? (change : Members → Option Members) : List String → Members → Option Members
  | [], members => change members
  | key :: path, members =>
    match find? members key with
    | none => do
      let inner ← atHeader? change path []
      some (members ++ [(key, table .implied inner)])
    | some (table origin inner) =>
      if origin = .inline then none
      else (atHeader? change path inner).map fun inner =>
        replace members key (table origin inner)
    | some (tables last earlier) => (atHeader? change path last).map fun last =>
      replace members key (tables last earlier)
    | some _ => none

/-- Add a value at a dotted key. The last table on its path is made by dotted keys; before it there
may also be tables that headers imply, and the last ones of repeated headers. -/
def insert? (value : Toml) : (path : List String) → (key : String) → Members → Option Members
  | [], key, members =>
    if (find? members key).isSome then none else some (members ++ [(key, value)])
  | first :: path, key, members =>
    match find? members first with
    | none => do
      let inner ← insert? value path key []
      some (members ++ [(first, table .dotted inner)])
    | some (table origin inner) =>
      if origin = .dotted || (origin = .implied && !path.isEmpty) then
        (insert? value path key inner).map fun inner => replace members first (table origin inner)
      else none
    | some (tables last earlier) =>
      if path.isEmpty then none
      else (insert? value path key last).map fun last => replace members first (tables last earlier)
    | some _ => none

/-- Open the table of a header. It may be implied by another header, and nothing else. -/
def openTable? (key : String) (members : Members) : Option Members :=
  match find? members key with
  | none => some (members ++ [(key, table .header [])])
  | some (table .implied inner) => some (replace members key (table .header inner))
  | some _ => none

/-- Open one more table of a repeated header. -/
def openRepeated? (key : String) (members : Members) : Option Members :=
  match find? members key with
  | none => some (members ++ [(key, tables [] [])])
  | some (tables last earlier) => some (replace members key (tables [] (last :: earlier)))
  | some _ => none

end Toml

end Keyset
