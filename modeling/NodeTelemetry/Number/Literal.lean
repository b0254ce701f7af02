/-
# Reading numbers from text

Counters and settings arrive as text. A whole number is an optional plus sign
and ASCII digits, bounded by the type it is read into; a decimal is an optional
sign and either a word for an infinity or a NaN, or digits with an optional point
and an optional exponent. Nothing may stand before, between or after. The first
fault from the left is the one reported.
-/

import NodeTelemetry.Number.Binary64
import NodeTelemetry.Text.Blank

namespace NodeTelemetry.Literal

/-- Why a text is no whole number. -/
inductive WholeFault where
  | empty
  | invalidDigit
  | tooLarge
  deriving DecidableEq, Repr

def WholeFault.message : WholeFault → String
  | .empty => "cannot parse integer from empty string"
  | .invalidDigit => "invalid digit found in string"
  | .tooLarge => "number too large to fit in target type"

/-- Value of an ASCII digit. -/
def digit? (c : Char) : Option Nat :=
  if '0' ≤ c ∧ c ≤ '9' then some (c.toNat - '0'.toNat) else none

def isDigit (c : Char) : Bool := (digit? c).isSome

/-- Value of a run of ASCII digits, continuing from `value`. -/
def digitsValue (value : Nat) (digits : List Char) : Nat :=
  digits.foldl (fun n c => 10 * n + (digit? c).getD 0) value

/-- Read digits into a type whose largest value is `most`, starting from `value`. A
character that is no digit is found before the number it would extend overflows. -/
def readDigits (most : Nat) (value : Nat) : List Char → Except WholeFault Nat
  | [] => .ok value
  | c :: rest =>
    match digit? c with
    | none => .error .invalidDigit
    | some d =>
      if most < 10 * value + d then .error .tooLarge
      else readDigits most (10 * value + d) rest

/-- Read a whole number between 0 and `most`. A minus sign is an invalid digit, and so
is a sign alone. -/
def readWhole (most : Nat) : List Char → Except WholeFault Nat
  | [] => .error .empty
  | ['+'] => .error .invalidDigit
  | '+' :: digits => readDigits most 0 digits
  | digits => readDigits most 0 digits

/-- Largest value of an unsigned 64-bit counter. -/
def mostUInt64 : Nat := 0x10000000000000000 - 1

/-- Read an integer that fits a signed 64-bit word. -/
def readInt64? : List Char → Option Int
  | '-' :: digits =>
    if digits.isEmpty || digits.head? == some '+' then none
    else match readWhole 0x8000000000000000 digits with
      | .ok n => some (-(n : Int))
      | .error _ => none
  | digits =>
    match readWhole (0x8000000000000000 - 1) digits with
    | .ok n => some n
    | .error _ => none

/-- Why a text is no decimal. -/
inductive DecimalFault where
  | empty
  | invalid
  deriving DecidableEq, Repr

def DecimalFault.message : DecimalFault → String
  | .empty => "cannot parse float from empty string"
  | .invalid => "invalid float literal"

/-- An optional sign and what follows it. -/
def splitSign : List Char → Bool × List Char
  | '-' :: rest => (true, rest)
  | '+' :: rest => (false, rest)
  | rest => (false, rest)

/-- Leading ASCII digits and what follows them. -/
def splitDigits (text : List Char) : List Char × List Char :=
  (text.takeWhile isDigit, text.dropWhile isDigit)

/-- The exponent at the end of a decimal: nothing, or `e` with a signed run of digits. -/
def readExponent? : List Char → Option Int
  | [] => some 0
  | mark :: rest =>
    if mark = 'e' ∨ mark = 'E' then
      let (negative, digits) := splitSign rest
      if digits.isEmpty || !digits.all isDigit then none
      else
        let n : Int := digitsValue 0 digits
        some (if negative then -n else n)
    else none

/-- Digits with an optional point, at least one digit on one of its sides, and an
optional exponent. -/
def readUnsignedDecimal? (negative : Bool) (text : List Char) : Option Binary64 :=
  let (whole, rest) := splitDigits text
  let (fraction, tail) :=
    match rest with
    | '.' :: after => splitDigits after
    | _ => ([], rest)
  if whole.isEmpty && fraction.isEmpty then none
  else
    (readExponent? tail).map fun exponent =>
      Binary64.ofDecimal negative (digitsValue 0 (whole ++ fraction)) (exponent - fraction.length)

/-- Read a decimal, correctly rounded. The words for infinities and NaN have any case. -/
def readDecimal (text : List Char) : Except DecimalFault Binary64 :=
  if text.isEmpty then .error .empty
  else
    let (negative, rest) := splitSign text
    let word := Text.lowerAscii rest
    if word = "inf".toList ∨ word = "infinity".toList then .ok (Binary64.infinity negative)
    else if word = "nan".toList then .ok (Binary64.nan negative)
    else
      match readUnsignedDecimal? negative rest with
      | some x => .ok x
      | none => .error .invalid

end NodeTelemetry.Literal
