/-
# Doubles as data

A measurement in percent or seconds is an IEEE 754 binary64 datum. The program
stores it, compares it, adds it up and writes it in binary and in decimal, so it
is held here as its 64 bits, and each operation is exact integer arithmetic
followed by one rounding. Every finite datum is a whole number of units of
`2 ^ -1074`; `units` is that number, and `ofRatio` rounds a quotient to the
nearest datum, ties to the even significand.
-/

namespace NodeTelemetry

/-- An IEEE 754 binary64 datum, held as its bits. Equality is equality of bits,
so the two zeros differ and a NaN equals itself. -/
structure Binary64 where
  bits : UInt64
  deriving DecidableEq, Inhabited

namespace Binary64

/-- Weight of the sign bit. -/
def signWeight : Nat := 0x8000000000000000

/-- Weight of the lowest bit of the exponent. The bit that a significand has in front of
its fraction has the same weight. -/
def exponentWeight : Nat := 0x10000000000000

/-- Units in the number one. -/
def unitsInOne : Nat := Nat.pow 2 1074

/-- Sign bit. -/
def negative (x : Binary64) : Bool := signWeight ≤ x.bits.toNat

/-- Bits without the sign: magnitudes are ordered as these numbers are. -/
def magnitudeBits (x : Binary64) : Nat := x.bits.toNat % signWeight

/-- Bits of the infinite magnitude; larger magnitudes are NaN. -/
def infinityBits : Nat := 2047 * exponentWeight

/-- No number: exponent of all ones and a fraction that is not zero. -/
def isNaN (x : Binary64) : Bool := infinityBits < x.magnitudeBits

/-- One of the two infinities. -/
def isInfinite (x : Binary64) : Bool := x.magnitudeBits == infinityBits

/-- Neither infinite nor NaN. -/
def isFinite (x : Binary64) : Bool := x.magnitudeBits < infinityBits

/-- One of the two zeros. -/
def isZero (x : Binary64) : Bool := x.magnitudeBits == 0

/-- Attach a sign to a magnitude below `2 ^ 63`. -/
def ofMagnitude (negative : Bool) (magnitude : Nat) : Binary64 :=
  ⟨UInt64.ofNat (if negative then signWeight + magnitude else magnitude)⟩

def zero : Binary64 := ofMagnitude false 0
def one : Binary64 := ⟨0x3FF0000000000000⟩
def infinity (negative : Bool) : Binary64 := ofMagnitude negative infinityBits

/-- The NaN that arithmetic and reading produce. -/
def nan (negative : Bool) : Binary64 := ofMagnitude negative (infinityBits + exponentWeight / 2)

/-- Significand and binary exponent of the unit in the last place: a finite
datum is `significand * 2 ^ scale` units of `2 ^ -1074`. -/
def significand (x : Binary64) : Nat :=
  if x.magnitudeBits < exponentWeight then x.magnitudeBits
  else exponentWeight + x.magnitudeBits % exponentWeight

def scale (x : Binary64) : Nat := x.magnitudeBits / exponentWeight - 1

/-- Magnitude in units of `2 ^ -1074`. -/
def units (x : Binary64) : Nat := x.significand * Nat.pow 2 x.scale

/-- Value in units of `2 ^ -1074`. -/
def signedUnits (x : Binary64) : Int :=
  if x.negative then -(x.units : Int) else x.units

/-- Nearest integer to `num / den`, ties to the even one. -/
def roundEven (num den : Nat) : Nat :=
  let floor := num / den
  let twice := 2 * (num % den)
  if twice < den then floor
  else if den < twice then floor + 1
  else floor + floor % 2

/-- Magnitude bits of the datum nearest to `num / den` units of `2 ^ -1074`. A
significand that rounds up to the next power of two carries into the exponent,
which is what the addition of the two parts does. -/
def roundMagnitude (num den : Nat) : Nat :=
  let scale := (num / den).log2 - 52
  let rounded := scale * exponentWeight + roundEven num (den * Nat.pow 2 scale)
  min rounded infinityBits

/-- The datum nearest to `num / den`. -/
def ofRatio (negative : Bool) (num den : Nat) : Binary64 :=
  ofMagnitude negative (roundMagnitude (num * unitsInOne) den)

/-- The datum nearest to a whole number. -/
def ofNat (n : Nat) : Binary64 := ofRatio false n 1

/-- The datum nearest to an integer; zero is positive. -/
def ofInt (n : Int) : Binary64 := ofRatio (n < 0) n.natAbs 1

/-- Digits below this many decimal places past the leading one are zero, and above
this many are infinite: the exponent range ends near `10 ^ 308` and `10 ^ -324`. -/
def decimalReach : Nat := 400

/-- The datum nearest to `digits * 10 ^ exponent`. Exponents far outside the range
are decided by the number of digits alone, so their powers are never built. -/
def ofDecimal (negative : Bool) (digits : Nat) (exponent : Int) : Binary64 :=
  if digits = 0 then ofMagnitude negative 0
  else
    let lead := exponent + (Nat.toDigits 10 digits).length
    if lead > decimalReach then infinity negative
    else if lead < -decimalReach then ofMagnitude negative 0
    else if exponent ≥ 0 then ofRatio negative (digits * Nat.pow 10 exponent.toNat) 1
    else ofRatio negative digits (Nat.pow 10 (-exponent).toNat)

/-- The datum with the given signed number of units of `2 ^ -1074`; a zero result is
negative only where `zeroSign` says so. -/
def ofSignedUnits (units : Int) (zeroSign : Bool) : Binary64 :=
  if units = 0 then ofMagnitude zeroSign 0
  else ofMagnitude (units < 0) (roundMagnitude units.natAbs 1)

/-- Sum rounded to nearest, ties to even. -/
def add (x y : Binary64) : Binary64 :=
  if x.isNaN || y.isNaN then nan false
  else if x.isInfinite then
    if y.isInfinite && x.negative != y.negative then nan true else x
  else if y.isInfinite then y
  else ofSignedUnits (x.signedUnits + y.signedUnits) (x.negative && y.negative)

/-- Product of two finite data, rounded to nearest, ties to even. -/
def mul (x y : Binary64) : Binary64 :=
  ofRatio (x.negative != y.negative) (x.units * y.units) (unitsInOne * unitsInOne)

/-- Quotient of finite data by a divisor that is not zero, rounded to nearest, ties to even. -/
def div (x y : Binary64) : Binary64 :=
  ofRatio (x.negative != y.negative) x.units y.units

/-- A number whose order is that of the data that are not NaN; both zeros are 0. -/
def orderKey (x : Binary64) : Int :=
  if x.negative then -(x.magnitudeBits : Int) else x.magnitudeBits

/-- `x ≤ y` as numbers; false as soon as one of them is NaN. -/
def le (x y : Binary64) : Bool :=
  !x.isNaN && !y.isNaN && x.orderKey ≤ y.orderKey

/-- Equality of what is measured: the zeros are identified, and so are the NaNs. -/
def sameReading (x y : Binary64) : Bool :=
  (x.isNaN && y.isNaN) || (x.isZero && y.isZero) || x == y

/-- Nearest integer, a half away from zero, as a signed integer. Infinities and NaN
have none. -/
def roundAway? (x : Binary64) : Option Int :=
  if x.isFinite then
    let rounded : Nat := (2 * x.units + unitsInOne) / (2 * unitsInOne)
    some (if x.negative then -(rounded : Int) else rounded)
  else none

/-- Nearest integer, a half away from zero, clamped to `lo ≤ n ≤ hi`; NaN gives 0. -/
def roundAwayWithin (lo hi : Int) (x : Binary64) : Int :=
  match x.roundAway? with
  | some n => max lo (min hi n)
  | none => if x.isNaN then 0 else if x.negative then lo else hi

end Binary64

end NodeTelemetry
