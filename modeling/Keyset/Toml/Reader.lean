import Keyset.Toml.Word

/-! # Reading TOML

The text of a document is a list of lines: keys with values, headers of tables, and comments.
`Keyset.Toml.read?` reads a document; a text that is not one is refused as a whole.
-/

namespace Keyset.Toml

open Text (hexDigit?)

/-- Spaces and tabs. -/
def isSpacing (c : Char) : Bool :=
  c == ' ' || c == '\t'

/-- The text after the spaces and tabs at its start. -/
def skipSpacing (text : List Char) : List Char :=
  text.dropWhile isSpacing

/-- The control characters that no string and no comment may hold. -/
def isForbidden (c : Char) : Bool :=
  (c.toNat < 0x20 && c != '\t') || c.toNat == 0x7F

/-- The text after the end of a line. -/
def readNewline? (text : List Char) : Option (List Char) :=
  match text with
  | '\n' :: rest => some rest
  | '\r' :: '\n' :: rest => some rest
  | _ => none

/-- The text after a comment, up to the end of the line. -/
def skipComment? (text : List Char) : Option (List Char) :=
  match skipSpacing text with
  | '#' :: rest =>
    let after := rest.dropWhile fun c => !isForbidden c
    match after with
    | [] => some []
    | _ => if (readNewline? after).isSome then some after else none
  | rest => some rest

/-- The text after the rest of a line, which may hold a comment. -/
def readLineEnd? (text : List Char) : Option (List Char) := do
  match ← skipComment? text with
  | [] => some []
  | rest => readNewline? rest

/-- The text after blank lines and comments, of which there are at most `room`. -/
def skipLines? : (room : Nat) → List Char → Option (List Char)
  | 0, text => some text
  | room + 1, text => do
    let rest ← skipComment? text
    match readNewline? rest with
    | some rest => skipLines? room rest
    | none => some rest

/-- The character of so many hexadecimal digits. -/
def readCode? (count : Nat) (text : List Char) : Option (Char × List Char) := do
  let digits ← (text.take count).mapM hexDigit?
  let code := digits.foldl (fun n digit => n * 16 + digit) 0
  if digits.length = count && (code < 0xD800 || (0xDFFF < code && code < 0x110000)) then
    some (Char.ofNat code, text.drop count)
  else none

/-- The character of an escape after its backslash. -/
def readEscape? (text : List Char) : Option (Char × List Char) :=
  match text with
  | 'b' :: rest => some ('\x08', rest)
  | 't' :: rest => some ('\t', rest)
  | 'n' :: rest => some ('\n', rest)
  | 'f' :: rest => some ('\x0c', rest)
  | 'r' :: rest => some ('\r', rest)
  | '"' :: rest => some ('"', rest)
  | '\\' :: rest => some ('\\', rest)
  | 'u' :: rest => readCode? 4 rest
  | 'U' :: rest => readCode? 8 rest
  | _ => none

/-- The characters of a string with escapes up to its closing quote. A string of `room` characters
at most is read. -/
def readBasic? : (room : Nat) → List Char → Option (List Char × List Char)
  | 0, _ => none
  | _, [] => none
  | _ + 1, '"' :: rest => some ([], rest)
  | room + 1, '\\' :: rest => do
    let (c, rest) ← readEscape? rest
    let (chars, rest) ← readBasic? room rest
    some (c :: chars, rest)
  | room + 1, c :: rest =>
    if isForbidden c then none
    else (readBasic? room rest).map fun (chars, rest) => (c :: chars, rest)

/-- The text after the spaces, tabs and line ends at its start. -/
def skipSpace : List Char → List Char
  | '\r' :: '\n' :: rest => skipSpace rest
  | c :: rest => if isSpacing c || c == '\n' then skipSpace rest else c :: rest
  | [] => []

/-- The text after a backslash at the end of a line: the blanks and line ends that follow do not
count. -/
def skipContinuation? (text : List Char) : Option (List Char) :=
  (readNewline? (skipSpacing text)).map skipSpace

/-- The characters of a string of several lines up to its closing quotes. -/
def readLongBasic? : (room : Nat) → List Char → Option (List Char × List Char)
  | 0, _ => none
  | _, [] => none
  | _ + 1, '"' :: '"' :: '"' :: '"' :: '"' :: rest => some (['"', '"'], rest)
  | _ + 1, '"' :: '"' :: '"' :: '"' :: rest => some (['"'], rest)
  | _ + 1, '"' :: '"' :: '"' :: rest => some ([], rest)
  | room + 1, '\\' :: rest =>
    match skipContinuation? rest with
    | some rest => readLongBasic? room rest
    | none => do
      let (c, rest) ← readEscape? rest
      let (chars, rest) ← readLongBasic? room rest
      some (c :: chars, rest)
  | room + 1, '\r' :: '\n' :: rest =>
    (readLongBasic? room rest).map fun (chars, rest) => ('\n' :: chars, rest)
  | room + 1, c :: rest =>
    if isForbidden c && c != '\n' then none
    else (readLongBasic? room rest).map fun (chars, rest) => (c :: chars, rest)

/-- The characters of a string without escapes up to its closing quote. -/
def readLiteral? : List Char → Option (List Char × List Char)
  | [] => none
  | '\'' :: rest => some ([], rest)
  | c :: rest =>
    if isForbidden c then none
    else (readLiteral? rest).map fun (chars, rest) => (c :: chars, rest)

/-- The characters of a string of several lines without escapes up to its closing quotes. -/
def readLongLiteral? : List Char → Option (List Char × List Char)
  | [] => none
  | '\'' :: '\'' :: '\'' :: '\'' :: '\'' :: rest => some (['\'', '\''], rest)
  | '\'' :: '\'' :: '\'' :: '\'' :: rest => some (['\''], rest)
  | '\'' :: '\'' :: '\'' :: rest => some ([], rest)
  | '\r' :: '\n' :: rest =>
    (readLongLiteral? rest).map fun (chars, rest) => ('\n' :: chars, rest)
  | c :: rest =>
    if isForbidden c && c != '\n' then none
    else (readLongLiteral? rest).map fun (chars, rest) => (c :: chars, rest)

/-- The text without a line end at its start. -/
def skipFirstNewline (text : List Char) : List Char :=
  (readNewline? text).getD text

/-- The characters of a string on one line, and the rest. -/
def readShort? (text : List Char) : Option (List Char × List Char) :=
  match text with
  | '"' :: rest => readBasic? (rest.length + 1) rest
  | '\'' :: rest => readLiteral? rest
  | _ => none

/-- The characters of a string, and the rest. -/
def readString? (text : List Char) : Option (List Char × List Char) :=
  match text with
  | '"' :: '"' :: '"' :: rest => readLongBasic? (rest.length + 1) (skipFirstNewline rest)
  | '\'' :: '\'' :: '\'' :: rest => readLongLiteral? (skipFirstNewline rest)
  | _ => readShort? text

/-- The characters of keys without quotes. -/
def isKeyChar (c : Char) : Bool :=
  c.isAlphanum || c == '_' || c == '-'

/-- How deep arrays and tables may be nested, and of how many keys a dotted key may consist. -/
def depthLimit : Nat := 79

/-- A key, and the rest. -/
def readSimpleKey? (text : List Char) : Option (String × List Char) :=
  match readShort? text with
  | some (chars, rest) => some (String.ofList chars, rest)
  | none =>
    match text.takeWhile isKeyChar with
    | [] => none
    | chars => some (String.ofList chars, text.dropWhile isKeyChar)

/-- The keys of a dotted key, of which there are at most `room`. -/
def readDottedKey? : (room : Nat) → List Char → Option (List String × List Char)
  | 0, _ => none
  | room + 1, text => do
    let (key, rest) ← readSimpleKey? (skipSpacing text)
    match skipSpacing rest with
    | '.' :: rest =>
      let (keys, rest) ← readDottedKey? room rest
      some (key :: keys, rest)
    | rest => some ([key], rest)

/-- A dotted key: the keys of its path, its last key, and the rest. -/
def readKey? (text : List Char) : Option (List String × String × List Char) := do
  let (keys, rest) ← readDottedKey? depthLimit text
  let last ← keys.getLast?
  some (keys.dropLast, last, rest)

/-- The items of an array after its opening bracket, of which there are at most `room`. -/
def readArray? (value : List Char → Option (Toml × List Char)) :
    (room : Nat) → List Char → Option (List Toml × List Char)
  | 0, _ => none
  | room + 1, text => do
    match ← skipLines? text.length text with
    | ']' :: rest => some ([], rest)
    | rest =>
      let (item, rest) ← value rest
      match ← skipLines? rest.length rest with
      | ']' :: rest => some ([item], rest)
      | ',' :: rest =>
        let (items, rest) ← readArray? value room rest
        some (item :: items, rest)
      | _ => none

/-- A key with its value, and the rest. -/
def readKeyValue? (value : List Char → Option (Toml × List Char)) (text : List Char) :
    Option ((List String × String × Toml) × List Char) := do
  let (path, key, rest) ← readKey? text
  match rest with
  | '=' :: rest =>
    let (item, rest) ← value (skipSpacing rest)
    some ((path, key, item), rest)
  | _ => none

/-- The members of a table between braces after the members read already. There are at most
`room` further ones. -/
def readInline? (value : List Char → Option (Toml × List Char)) :
    (room : Nat) → Members → List Char → Option (Members × List Char)
  | 0, _, _ => none
  | room + 1, members, text => do
    let ((path, key, item), rest) ← readKeyValue? value text
    let members ← insert? item path key members
    match skipSpacing rest with
    | '\x7d' :: rest => some (members, rest)
    | ',' :: rest => readInline? value room members rest
    | _ => none

/-- A value without brackets or braces, and the rest. -/
def readScalar? (text : List Char) : Option (Toml × List Char) :=
  match text with
  | [] => none
  | c :: _ =>
    if c == '"' || c == '\'' then
      (readString? text).map fun (chars, rest) => (string (String.ofList chars), rest)
    else readWord? text

/-- A value with arrays and tables nested at most `depth` deep, and the rest. -/
def readValue? : (depth : Nat) → List Char → Option (Toml × List Char)
  | 0, text => readScalar? text
  | depth + 1, text =>
    match text with
    | '[' :: rest => (readArray? (readValue? depth) (rest.length + 1) rest).map
      fun (items, rest) => (array items, rest)
    | '\x7b' :: rest =>
      match skipSpacing rest with
      | '\x7d' :: rest => some (table .inline [], rest)
      | _ => (readInline? (readValue? depth) (rest.length + 1) [] rest).map
        fun (members, rest) => (table .inline members, rest)
    | _ => readScalar? text

/-- A document as far as it has been read: the table that keys are added to, and the members. -/
structure Document where
  header : List String
  members : Members

/-- The header of a table, up to its closing bracket. -/
def readHeader? (document : Document) (text : List Char) : Option (Document × List Char) := do
  let (path, key, rest) ← readKey? text
  match rest with
  | ']' :: rest =>
    let members ← atHeader? (openTable? key) path document.members
    some (⟨path ++ [key], members⟩, rest)
  | _ => none

/-- The repeated header of a table, up to its closing brackets. -/
def readRepeatedHeader? (document : Document) (text : List Char) :
    Option (Document × List Char) := do
  let (path, key, rest) ← readKey? text
  match rest with
  | ']' :: ']' :: rest =>
    let members ← atHeader? (openRepeated? key) path document.members
    some (⟨path ++ [key], members⟩, rest)
  | _ => none

/-- A header or a key with its value. -/
def readStatement? (document : Document) (text : List Char) : Option (Document × List Char) :=
  match text with
  | '[' :: '[' :: rest => readRepeatedHeader? document rest
  | '[' :: rest => readHeader? document rest
  | _ => do
    let ((path, key, value), rest) ← readKeyValue? (readValue? depthLimit) text
    let members ← atHeader? (insert? value path key) document.header document.members
    some ({ document with members := members }, rest)

/-- The members of a document after the statements read already. There are at most `room` further
statements. -/
def readStatements? : (room : Nat) → Document → List Char → Option Members
  | 0, _, _ => none
  | room + 1, document, text => do
    match skipSpacing (← skipLines? text.length text) with
    | [] => some document.members
    | rest =>
      let (document, rest) ← readStatement? document rest
      let rest ← readLineEnd? rest
      readStatements? room document rest

/-- The members of a document. -/
def read? (text : String) : Option Members :=
  let chars := match text.toList with
    | '\ufeff' :: rest => rest
    | chars => chars
  readStatements? (chars.length + 1) ⟨[], []⟩ chars

end Keyset.Toml
