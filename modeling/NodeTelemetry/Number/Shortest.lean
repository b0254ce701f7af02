/-
# Shortest decimal text of a double

A double is written with the fewest digits that still read back as the same
double, and among those with the digits nearest to it. The digits are found on
decimal grids of growing fineness: on each grid only the two neighbours of the
value have to be tried, because a grid point inside the interval that reads back
implies that one of these two is inside as well. Text is always positional, and
whole numbers have no point.
-/

import NodeTelemetry.Number.Binary64

namespace NodeTelemetry.Binary64

/-- `digits * 10 ^ exponent`. -/
structure Decimal where
  digits : Nat
  exponent : Int
  deriving DecidableEq, Repr

/-- Number of decimal digits; zero has one. -/
def digitCount (n : Nat) : Nat := (Nat.toDigits 10 n).length

/-- The power of ten of the leading digit of the quotient `num / den`, which is positive. -/
def leadingPower (num den : Nat) : Int :=
  if den ≤ num then digitCount (num / den) - 1
  else -(digitCount ((den + num - 1) / num - 1) : Int)

/-- Half-open or closed interval of the quotients `n / den` that read back as one
double, with `num / den` the double itself. -/
structure ReadBack where
  low : Nat
  num : Nat
  high : Nat
  den : Nat
  ends : Bool

/-- Everything that rounds to the finite datum `x`. Directly above a power of two
the gap below is half the gap above, and the ends belong to the interval when the
significand is even. -/
def readBack (x : Binary64) : ReadBack :=
  let gap := Nat.pow 2 x.scale
  let below := if x.significand = Binary64.exponentWeight ∧ 0 < x.scale then gap else 2 * gap
  { low := 4 * x.units - below
    num := 4 * x.units
    high := 4 * x.units + 2 * gap
    den := 4 * Binary64.unitsInOne
    ends := x.significand % 2 = 0 }

/-- Does `digits * 10 ^ exponent` read back? -/
def ReadBack.holds (interval : ReadBack) (value : Decimal) : Bool :=
  let left := value.digits * Nat.pow 10 value.exponent.toNat * interval.den
  let unit := Nat.pow 10 (-value.exponent).toNat
  if interval.ends then interval.low * unit ≤ left && left ≤ interval.high * unit
  else interval.low * unit < left && left < interval.high * unit

/-- The point nearest to the value among its two neighbours on the grid of
`10 ^ exponent` that read back. -/
def ReadBack.onGrid (interval : ReadBack) (exponent : Int) : Option Decimal :=
  let num := interval.num * Nat.pow 10 (-exponent).toNat
  let den := interval.den * Nat.pow 10 exponent.toNat
  let below : Decimal := ⟨num / den, exponent⟩
  let above : Decimal := ⟨num / den + 1, exponent⟩
  match interval.holds below, interval.holds above with
  | true, true => some (if 2 * (num % den) < den then below else above)
  | true, false => some below
  | false, true => some above
  | false, false => none

/-- Move trailing zeros of the digits into the exponent, at most `steps` of them. -/
def Decimal.dropZeros (value : Decimal) : Nat → Decimal
  | 0 => value
  | steps + 1 =>
    if value.digits ≠ 0 ∧ value.digits % 10 = 0 then
      Decimal.dropZeros ⟨value.digits / 10, value.exponent + 1⟩ steps
    else value

/-- The shortest decimal that reads back as the finite datum `x`, sign aside.
Seventeen digits always suffice. -/
def shortest (x : Binary64) : Decimal :=
  if x.isZero then ⟨0, 0⟩
  else
    let interval := x.readBack
    let lead := leadingPower interval.num interval.den
    let found := (List.range 17).findSome? fun (n : Nat) => interval.onGrid (lead - n)
    (found.getD ⟨0, 0⟩).dropZeros 20

/-- Digits and a point where the exponent puts it. -/
def Decimal.positional (value : Decimal) : String :=
  let digits := Nat.toDigits 10 value.digits
  let places := (-value.exponent).toNat
  if places = 0 then String.ofList (digits ++ List.replicate value.exponent.toNat '0')
  else if places < digits.length then
    let whole := digits.length - places
    String.ofList (digits.take whole ++ '.' :: digits.drop whole)
  else String.ofList ('0' :: '.' :: List.replicate (places - digits.length) '0' ++ digits)

/-- The text of a double: never an exponent, no point in a whole number, `-0` for the
negative zero. -/
def toDecimalText (x : Binary64) : String :=
  if x.isNaN then "NaN"
  else
    let magnitude := if x.isInfinite then "inf" else x.shortest.positional
    if x.negative then "-" ++ magnitude else magnitude

end NodeTelemetry.Binary64
