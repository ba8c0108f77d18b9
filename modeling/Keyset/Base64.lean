/-! # Base64

Bytes as text over the standard alphabet of 64 characters, three bytes to four characters, the
last group being filled up with `=`. Reading (`Keyset.Base64.decode?`) accepts only the texts
that writing (`Keyset.Base64.encode`) gives: the filling is required, and the bits that it
leaves over are zero.
-/

namespace Keyset.Base64

/-- The character of a number below 64. -/
def sextetChar (n : Nat) : Char :=
  if n < 26 then Char.ofNat ('A'.toNat + n)
  else if n < 52 then Char.ofNat ('a'.toNat + (n - 26))
  else if n < 62 then Char.ofNat ('0'.toNat + (n - 52))
  else if n == 62 then '+'
  else '/'

/-- The number of a character. -/
def sextet? (c : Char) : Option Nat :=
  if 'A' ≤ c && c ≤ 'Z' then some (c.toNat - 'A'.toNat)
  else if 'a' ≤ c && c ≤ 'z' then some (c.toNat - 'a'.toNat + 26)
  else if '0' ≤ c && c ≤ '9' then some (c.toNat - '0'.toNat + 52)
  else if c == '+' then some 62
  else if c == '/' then some 63
  else none

/-- The characters of a list of bytes. -/
def encode : List UInt8 → List Char
  | [] => []
  | [a] => [sextetChar (a.toNat / 4), sextetChar (a.toNat % 4 * 16), '=', '=']
  | [a, b] =>
    [sextetChar (a.toNat / 4), sextetChar (a.toNat % 4 * 16 + b.toNat / 16),
      sextetChar (b.toNat % 16 * 4), '=']
  | a :: b :: c :: rest =>
    sextetChar (a.toNat / 4) :: sextetChar (a.toNat % 4 * 16 + b.toNat / 16) ::
      sextetChar (b.toNat % 16 * 4 + c.toNat / 64) :: sextetChar (c.toNat % 64) :: encode rest

/-- The byte of a number below 256. -/
def byte (n : Nat) : UInt8 :=
  UInt8.ofNat n

/-- The bytes of a text in groups of four characters. -/
def decode? : List Char → Option (List UInt8)
  | [] => some []
  | [a, b, '=', '='] => do
    let a ← sextet? a
    let b ← sextet? b
    if b % 16 == 0 then some [byte (a * 4 + b / 16)] else none
  | [a, b, c, '='] => do
    let a ← sextet? a
    let b ← sextet? b
    let c ← sextet? c
    if c % 4 == 0 then some [byte (a * 4 + b / 16), byte (b % 16 * 16 + c / 4)] else none
  | a :: b :: c :: d :: rest => do
    let a ← sextet? a
    let b ← sextet? b
    let c ← sextet? c
    let d ← sextet? d
    let others ← decode? rest
    some (byte (a * 4 + b / 16) :: byte (b % 16 * 16 + c / 4) :: byte (c % 4 * 64 + d) :: others)
  | _ => none

/-- A text as bytes in the standard alphabet. -/
def encodeText (text : String) : String :=
  String.ofList (encode text.toUTF8.toList)

/-- The text of bytes in the standard alphabet. -/
def decodeText? (encoded : String) : Option String := do
  let bytes ← decode? encoded.toList
  String.fromUTF8? ⟨bytes.toArray⟩

end Keyset.Base64
