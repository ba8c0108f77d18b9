import Keyset.Text.CasingTable

/-! # Lower case

The full lower-case mapping of Unicode, without regard to language: each capital becomes
its small letter, `U+0130` becomes two characters, and a capital sigma at the end of a word
becomes the final sigma (`Keyset.Text.lower`).
-/

namespace Keyset.Text

/-- The property `Cased`: capital, small and title-case letters. -/
def isCased (c : Char) : Bool :=
  casedSet.contains c

/-- The property `Case_Ignorable`: characters that do not end a word for the rule of the
final sigma. -/
def isCaseIgnorable (c : Char) : Bool :=
  caseIgnorableSet.contains c

/-- The small letters of one character, a sigma being read as one inside a word. -/
def lowerChar (c : Char) : List Char :=
  if c.toNat < 0x80 then [c.toLower]
  else if c.toNat == 0x130 then ['i', Char.ofNat 0x307]
  else
    match capitalRuns.findSome? (·.lower? c.toNat) with
    | some code => [Char.ofNat code]
    | none => [c]

/-- Whether the word goes on: the next character that counts is a cased one. -/
def startsCased (rest : List Char) : Bool :=
  match rest.dropWhile isCaseIgnorable with
  | c :: _ => isCased c
  | [] => false

/-- The lower case of a text that follows other characters; `inWord` says whether the last
of those that counts is a cased one. -/
def lowerFrom : (inWord : Bool) → List Char → List Char
  | _, [] => []
  | inWord, c :: rest =>
    let small :=
      if c == 'Σ' then if inWord && !startsCased rest then ['ς'] else ['σ'] else lowerChar c
    small ++ lowerFrom (if isCaseIgnorable c then inWord else isCased c) rest

/-- The lower case of a text. -/
def lower (text : String) : String :=
  String.ofList (lowerFrom false text.toList)

end Keyset.Text
