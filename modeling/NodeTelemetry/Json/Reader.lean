/-
# Reading JSON text

The grammar is strict: one value, JSON blanks only, no trailing comma, no leading
zeros, no comments. Nesting is bounded by the caller. A number without point and
exponent that fits a 64-bit word stays whole. Every other number is a double, and
its digits and its power of ten are rounded one after the other: as many leading
digits as fit a 64-bit word are read exactly, later digits only move the exponent,
and the result is that word, rounded, times or divided by the rounded power.
-/

import NodeTelemetry.Json.Value
import NodeTelemetry.Number.Literal
import NodeTelemetry.Text.Hex

namespace NodeTelemetry.Json

open Literal

/-- Blanks between JSON tokens. -/
def isGap (c : Char) : Bool := c == ' ' || c == '\n' || c == '\t' || c == '\r'

def skipGap (text : List Char) : List Char := text.dropWhile isGap

/-- Four hexadecimal digits. -/
def codeUnit? (a b c d : Char) : Option Nat := do
  let high := (← Text.hexDigit? a) * 16 + (← Text.hexDigit? b)
  return (high * 16 + (← Text.hexDigit? c)) * 16 + (← Text.hexDigit? d)

/-- What a text holds so far: characters, or code units that form none. -/
inductive Piece where
  | char (c : Char)
  | unit (n : Nat)

/-- Join surrogate pairs. A half without its other half makes the text unreadable. -/
def joinPieces : List Piece → Option (List Char)
  | [] => some []
  | .char c :: rest => (joinPieces rest).map (c :: ·)
  | .unit high :: .unit low :: rest =>
    if 0xD800 ≤ high ∧ high < 0xDC00 ∧ 0xDC00 ≤ low ∧ low < 0xE000 then
      (joinPieces rest).map (Char.ofNat (0x10000 + (high - 0xD800) * 0x400 + (low - 0xDC00)) :: ·)
    else none
  | .unit _ :: _ => none

/-- The character of an escape without a number. -/
def plainEscape? : Char → Option Char
  | '"' => some '"'
  | '\\' => some '\\'
  | '/' => some '/'
  | 'b' => some '\x08'
  | 'f' => some '\x0c'
  | 'n' => some '\n'
  | 'r' => some '\r'
  | 't' => some '\t'
  | _ => none

/-- A code unit outside the surrogates is a character of its own. -/
def Piece.ofUnit (n : Nat) : Piece :=
  if 0xD800 ≤ n ∧ n < 0xE000 then .unit n else .char (Char.ofNat n)

/-- Read up to the closing quote. -/
def readPieces : List Char → Option (List Piece × List Char)
  | [] => none
  | '"' :: rest => some ([], rest)
  | '\\' :: 'u' :: a :: b :: c :: d :: rest => do
    let unit ← codeUnit? a b c d
    let (pieces, after) ← readPieces rest
    return (.ofUnit unit :: pieces, after)
  | '\\' :: mark :: rest => do
    let c ← plainEscape? mark
    let (pieces, after) ← readPieces rest
    return (.char c :: pieces, after)
  | c :: rest =>
    if c.toNat < 0x20 ∨ c = '\\' then none
    else (readPieces rest).map fun (pieces, after) => (.char c :: pieces, after)

/-- A text after its opening quote; the inner `none` is an unreadable one. -/
def readText (text : List Char) : Option (Option String × List Char) :=
  (readPieces text).map fun (pieces, rest) => ((joinPieces pieces).map String.ofList, rest)

/-- Leading digits that fit a 64-bit word after `value`, and how many digits are left. -/
def absorb (value : Nat) : List Char → Nat × Nat
  | [] => (value, 0)
  | c :: rest =>
    let next := 10 * value + (digit? c).getD 0
    if mostUInt64 < next then (value, (c :: rest).length) else absorb next rest

/-- Largest power of ten that is a finite double. -/
def mostPower : Nat := 308

/-- Divide by `10 ^ power`, at most `10 ^ mostPower` at a time. -/
def divideByPower : Nat → Binary64 → Nat → Binary64
  | 0, x, _ => x
  | steps + 1, x, power =>
    if power ≤ mostPower then x.div (Binary64.ofNat (Nat.pow 10 power))
    else if x.isZero then x
    else divideByPower steps (x.div (Binary64.ofNat (Nat.pow 10 mostPower))) (power - mostPower)

/-- The double for `word * 10 ^ exponent`, unreadable beyond the range of doubles. -/
def scaled (negative : Bool) (word : Nat) (exponent : Int) : Json :=
  let x := Binary64.ofNat word
  let signed (magnitude : Binary64) := Json.real (.ofMagnitude negative magnitude.magnitudeBits)
  if exponent < 0 then signed (divideByPower 4 x (-exponent).toNat)
  else if exponent.toNat ≤ mostPower then
    let product := x.mul (Binary64.ofNat (Nat.pow 10 exponent.toNat))
    if product.isInfinite then .unreadable else signed product
  else if x.isZero then signed x
  else .unreadable

/-- The pieces of a number as written. -/
structure NumberText where
  negative : Bool
  whole : List Char
  fraction : Option (List Char)
  exponent : Option (Bool × List Char)

/-- The value of a number, following the rule of this module. -/
def NumberText.value (number : NumberText) : Json :=
  let (word, left) := absorb 0 number.whole
  match number.fraction, number.exponent with
  | none, none =>
    if left = 0 then
      if number.negative then
        if word = 0 ∨ 0x8000000000000000 < word then scaled true word 0
        else .whole (-(word : Int))
      else .whole word
    else scaled number.negative word left
  | fraction, exponent =>
    let digits := fraction.getD []
    let (word, ignored) := absorb word digits
    let places : Int := (left : Int) - ((digits.length : Int) - ignored)
    match exponent with
    | none => scaled number.negative word places
    | some (down, digits) =>
      let power : Int := digitsValue 0 digits
      scaled number.negative word (if down then places - power else places + power)

/-- At least one digit and what follows. -/
def readDigitRun (text : List Char) : Option (List Char × List Char) :=
  let (digits, rest) := splitDigits text
  if digits.isEmpty then none else some (digits, rest)

/-- The whole part: a single zero, or digits that do not start with zero. -/
def readWholePart (text : List Char) : Option (List Char × List Char) :=
  match text with
  | '0' :: rest => if (rest.head?.map isDigit).getD false then none else some (['0'], rest)
  | _ => readDigitRun text

def readFraction : List Char → Option (Option (List Char) × List Char)
  | '.' :: rest => (readDigitRun rest).map fun (digits, after) => (some digits, after)
  | other => some (none, other)

def readPower : List Char → Option (Option (Bool × List Char) × List Char)
  | mark :: rest =>
    if mark = 'e' ∨ mark = 'E' then
      let (down, digits) := splitSign rest
      (readDigitRun digits).map fun (run, after) => (some (down, run), after)
    else some (none, mark :: rest)
  | [] => some (none, [])

/-- Read a number. -/
def readNumber (input : List Char) : Option (Json × List Char) := do
  let (negative, unsigned) := match input with
    | '-' :: rest => (true, rest)
    | _ => (false, input)
  let (digits, rest) ← readWholePart unsigned
  let (fraction, rest) ← readFraction rest
  let (exponent, rest) ← readPower rest
  return (NumberText.value ⟨negative, digits, fraction, exponent⟩, rest)

/-- Drop a literal word from the front. -/
def expect (word : String) (text : List Char) : Option (List Char) :=
  if word.toList.isPrefixOf text then some (text.drop word.length) else none

/-- An object is readable when all its names are. -/
def ofMembers (members : List (Option String × Json)) : Json :=
  match members.mapM fun (name, value) => name.map fun name => (name, value) with
  | some readable => .object readable
  | none => .unreadable

mutual

/-- Read one value. Every step into a list, an object or one of their items uses one
unit of `fuel`; `depth` bounds the nesting. -/
def readValue : Nat → Nat → List Char → Option (Json × List Char)
  | 0, _, _ => none
  | fuel + 1, depth, input =>
    match skipGap input with
    | '"' :: rest => (readText rest).map fun (value, after) =>
        ((value.map Json.text).getD .unreadable, after)
    | '[' :: rest =>
      match depth with
      | 0 => none
      | depth + 1 =>
        match skipGap rest with
        | ']' :: after => some (.list [], after)
        | items => (readItems fuel depth items).map fun (values, after) => (.list values, after)
    | '{' :: rest =>
      match depth with
      | 0 => none
      | depth + 1 =>
        match skipGap rest with
        | '}' :: after => some (.object [], after)
        | members => (readMembers fuel depth members).map fun (values, after) =>
            (ofMembers values, after)
    | 'n' :: rest => (expect "ull" rest).map fun after => (.null, after)
    | 't' :: rest => (expect "rue" rest).map fun after => (.bool true, after)
    | 'f' :: rest => (expect "alse" rest).map fun after => (.bool false, after)
    | other => readNumber other

/-- Items up to the closing bracket. -/
def readItems : Nat → Nat → List Char → Option (List Json × List Char)
  | 0, _, _ => none
  | fuel + 1, depth, input => do
    let (value, rest) ← readValue fuel depth input
    match skipGap rest with
    | ']' :: after => some ([value], after)
    | ',' :: more =>
      let (values, after) ← readItems fuel depth more
      some (value :: values, after)
    | _ => none

/-- Members up to the closing brace. -/
def readMembers : Nat → Nat → List Char → Option (List (Option String × Json) × List Char)
  | 0, _, _ => none
  | fuel + 1, depth, input => do
    let quoted ← expect "\"" (skipGap input)
    let (name, rest) ← readText quoted
    let unnamed ← expect ":" (skipGap rest)
    let (value, rest) ← readValue fuel depth unnamed
    match skipGap rest with
    | '}' :: after => some ([(name, value)], after)
    | ',' :: more =>
      let (members, after) ← readMembers fuel depth more
      some ((name, value) :: members, after)
    | _ => none

end

/-- Read a text that is one JSON value with at most `depth` nested lists and objects. -/
def parseWithin? (depth : Nat) (input : String) : Option Json := do
  let chars := input.toList
  let (value, rest) ← readValue (2 * chars.length + 2) depth chars
  if (skipGap rest).isEmpty then some value else none

/-- Read a text that is one JSON value, however deep it nests. -/
def parse? (input : String) : Option Json := parseWithin? input.length input

end NodeTelemetry.Json
