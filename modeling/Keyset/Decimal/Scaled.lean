/-! # Doubles from decimals

A decimal is read as a whole number below `2 ^ 64` and a power of ten. Its double is the
double of the whole number multiplied or divided by the double of the power of ten, one
rounding each (`Keyset.Decimal.scaled?`); a number beyond all doubles has none.
-/

namespace Keyset.Decimal

/-- The double nearest to `10 ^ power`. -/
def powerOfTen (power : Nat) : Float :=
  Float.ofScientific 1 false power

/-- A double divided by `10 ^ power`, in steps of at most `10 ^ 308`. -/
def divideByPower (x : Float) (power : Nat) : Float :=
  if power ≤ 308 then x / powerOfTen power
  else if x == 0.0 then x
  else divideByPower (x / powerOfTen 308) (power - 308)
termination_by power

/-- The double of `significand * 10 ^ exponent`, if it is finite. -/
def scaled? (significand : Nat) (exponent : Int) : Option Float :=
  let x := Float.ofNat significand
  if exponent < 0 then some (divideByPower x exponent.natAbs)
  else if exponent ≤ 308 then
    let product := x * powerOfTen exponent.toNat
    if product.isInf then none else some product
  else if significand == 0 then some x
  else none

end Keyset.Decimal
