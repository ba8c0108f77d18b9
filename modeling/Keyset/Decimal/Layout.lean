import Keyset.Decimal.Shortest

/-! # Layouts of doubles

The text of a double is made of its shortest digits by a layout: which numbers are written
with all their places, whether a whole number keeps a zero after the point, and how ties between
digits are broken. The other numbers are written with one digit before the point and a signed
power of ten.
-/

namespace Keyset.Decimal

/-- The decisions of a format on the text of a double. -/
structure Layout where
  /-- Whether a number whose first digit has this power of ten is written with all its
  places. -/
  positional : Int → Bool
  /-- Whether a whole number keeps `.0`. -/
  pointZero : Bool
  /-- Which digits are taken of two choices that are equally near. -/
  tie : Tie

/-- All places of the digits. -/
def Layout.positionalChars (layout : Layout) (number : Digits) : List Char :=
  if number.lead < 0 then
    '0' :: '.' :: (List.replicate (-number.lead - 1).toNat '0' ++ number.digits)
  else
    let places := number.lead.toNat + 1
    let whole := number.digits.take places ++
      List.replicate (places - number.digits.length) '0'
    match number.digits.drop places with
    | [] => if layout.pointZero then whole ++ ['.', '0'] else whole
    | fraction => whole ++ '.' :: fraction

/-- The digits with one place before the point, and their power of ten. -/
def scientificChars (number : Digits) : List Char :=
  let power := (if number.lead < 0 then '-' else '+') :: Nat.toDigits 10 number.lead.natAbs
  match number.digits with
  | first :: second :: rest => first :: '.' :: second :: rest ++ 'e' :: power
  | digits => digits ++ 'e' :: power

/-- The text of a finite double. -/
def Layout.chars (layout : Layout) (x : Float) : List Char :=
  let binary := Binary.ofFloat x
  let number := if binary.mantissa == 0 then ⟨['0'], 0⟩ else shortest layout.tie binary
  let size :=
    if layout.positional number.lead then layout.positionalChars number
    else scientificChars number
  if binary.negative then '-' :: size else size

end Keyset.Decimal
