import Keyset.Decimal.Digits

/-! # Shortest decimal digits

A finite double is a whole number times a power of two (`Keyset.Decimal.Binary`). Among the
decimals that round to it, `Keyset.Decimal.shortest` takes the fewest digits, and of the
decimals with so few digits the nearest; of two that are equally near, a rule decides
(`Keyset.Decimal.Tie`). The search compares exact natural numbers only.
-/

namespace Keyset.Decimal

/-- A finite double: its sign and its size `mantissa * 2 ^ exponent`. -/
structure Binary where
  negative : Bool
  mantissa : Nat
  exponent : Int

/-- Read a finite double off its bits. -/
def Binary.ofFloat (x : Float) : Binary :=
  let bits := x.toBits.toNat
  let fraction := bits % twoTo 52
  let biased := bits / twoTo 52 % twoTo 11
  { negative := bits / twoTo 63 == 1
    mantissa := if biased == 0 then fraction else twoTo 52 + fraction
    exponent := Int.ofNat (max biased 1) - 1075 }

/-- The decimals that round to a double: those between `low / scale` and `high / scale`,
the ends included iff `closed`; the double itself is `middle / scale`. -/
structure Interval where
  low : Nat
  middle : Nat
  high : Nat
  scale : Nat
  closed : Bool

/-- The rounding interval reaches half way to the two neighbours; below a power of two the
lower neighbour is only half as far. An even mantissa attracts the ends. -/
def Binary.interval (x : Binary) : Interval :=
  let quarter := twoTo (x.exponent - 2).toNat
  let below := if x.mantissa == twoTo 52 && x.exponent > -1074 then 1 else 2
  { low := (4 * x.mantissa - below) * quarter
    middle := 4 * x.mantissa * quarter
    high := (4 * x.mantissa + 2) * quarter
    scale := twoTo (2 - x.exponent).toNat
    closed := x.mantissa % 2 == 0 }

/-- Decimal digits with a point after the digit of power `10 ^ 0`; the first digit has the
power `10 ^ lead`. -/
structure Digits where
  digits : List Char
  lead : Int
deriving DecidableEq

/-- How many decimal digits a natural number has. -/
def digitCount (n : Nat) : Nat :=
  (Nat.toDigits 10 n).length

/-- The power of ten of the first digit of `numerator / denominator`. -/
def leadOf (numerator denominator : Nat) : Int :=
  if denominator ≤ numerator then Int.ofNat (digitCount (numerator / denominator)) - 1
  else - Int.ofNat (digitCount ((denominator + numerator - 1) / numerator - 1))

/-- Which of two neighbouring decimals is taken if a double lies half way between them. -/
inductive Tie
  /-- The larger one. -/
  | up
  /-- The one whose last digit is even. -/
  | even
deriving DecidableEq

/-- Whether the smaller one of two neighbouring decimals is taken. -/
def Tie.takesBelow (tie : Tie) (below : Nat) : Bool :=
  match tie with
  | up => false
  | even => below % 2 == 0

/-- The multiple of `10 ^ unit` nearest to the double that lies in its interval. -/
def Interval.nearest? (range : Interval) (tie : Tie) (unit : Int) : Option Nat :=
  let up := tenTo unit.toNat * range.scale
  let down := tenTo (-unit).toNat
  let inside := fun n : Nat =>
    if range.closed then range.low * down ≤ n * up && n * up ≤ range.high * down
    else range.low * down < n * up && n * up < range.high * down
  let below := range.middle * down / up
  let above := below + 1
  let toBelow := range.middle * down - below * up
  let toAbove := above * up - range.middle * down
  let takesBelow := toBelow < toAbove || toBelow == toAbove && tie.takesBelow below
  match inside below, inside above with
  | true, true => some (if takesBelow then below else above)
  | true, false => some below
  | false, true => some above
  | false, false => none

/-- The digits of `n * 10 ^ unit`, without zeros at the end. -/
def Digits.ofScaled (n : Nat) (unit : Int) : Digits :=
  let digits := Nat.toDigits 10 n
  { digits := (digits.reverse.dropWhile (· == '0')).reverse
    lead := unit + Int.ofNat digits.length - 1 }

/-- The fewest digits that round to a finite double that is not zero; seventeen digits
always do. -/
def shortest (tie : Tie) (x : Binary) : Digits :=
  let range := x.interval
  let lead := leadOf range.middle range.scale
  let grid := fun count : Nat =>
    let unit := lead - Int.ofNat count
    (range.nearest? tie unit).map fun n => Digits.ofScaled n unit
  ((List.range 17).findSome? grid).getD ⟨['0'], 0⟩

end Keyset.Decimal
