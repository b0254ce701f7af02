/-
# Punycode

Punycode writes a text with ASCII characters only. First come the ASCII characters of the
text. Behind the last hyphen every other character follows as a number, which says how
many steps to go, counted through all places of the text and then on to the next code
point. A number is written with digits whose weights depend on how large the numbers
before it were.
-/

namespace NodeTelemetry.Idna.Punycode

/-- How many digits there are. -/
def base : Nat := 36

/-- The value of a digit: first the letters, then the decimal digits. -/
def digit? (c : Char) : Option Nat :=
  if c.isLower then some (c.toNat - 97)
  else if c.isUpper then some (c.toNat - 65)
  else if c.isDigit then some (c.toNat - 22)
  else none

/-- A digit below the threshold of its place is the last one of its number. -/
def threshold (place bias : Nat) : Nat :=
  if place ≤ bias then 1 else if bias + 26 ≤ place then 26 else place - bias

/-- Divide until the rest is small, counting places. -/
def settle (delta place : Nat) : Nat × Nat :=
  if 455 < delta then settle (delta / 35) (place + base) else (delta, place)
termination_by delta
decreasing_by omega

/-- The bias after a number, when the text has `count` characters. -/
def adapt (delta count : Nat) (isFirst : Bool) : Nat :=
  let delta := if isFirst then delta / 700 else delta / 2
  let (delta, place) := settle (delta + delta / count) 0
  place + base * delta / (delta + 38)

/-- Numbers have to be smaller than this. -/
def limit : Nat := 0x100000000

/-- Read a number and return what follows it. -/
def readNumber? (bias place weight value : Nat) : List Char → Option (Nat × List Char)
  | [] => none
  | c :: rest => do
    let digit ← digit? c
    let value := value + digit * weight
    if limit ≤ value then none
    else if digit < threshold place bias then return (value, rest)
    else readNumber? bias (place + base) (weight * (base - threshold place bias)) value rest

theorem length_of_readNumber? {bias place weight value : Nat} {text : List Char}
    {result : Nat × List Char} (read : readNumber? bias place weight value text = some result) :
    result.2.length < text.length := by
  induction text generalizing place weight value with
  | nil => simp [readNumber?] at read
  | cons c rest ih =>
    simp only [readNumber?, Option.bind_eq_bind, Option.bind_eq_some_iff] at read
    obtain ⟨digit, _, read⟩ := read
    split at read
    · simp at read
    · split at read
      · rw [← Option.some.inj read]
        simp
      · have shorter := ih read
        simp only [List.length_cons]
        omega

/-- Insert the characters that numbers stand for, where `point` is the last code point and
`place` the place behind it. -/
def insertAll? (bias point place : Nat) (text numbers : List Char) : Option (List Char) :=
  if numbers.isEmpty then some text
  else
    match _read : readNumber? bias base 1 0 numbers with
    | none => none
    | some (delta, rest) =>
      let count := text.length + 1
      let steps := place + delta
      let point := point + steps / count
      if point.isValidChar then
        insertAll? (adapt delta count (place == 0)) point (steps % count + 1)
          (text.insertIdx (steps % count) (Char.ofNat point)) rest
      else none
termination_by numbers.length
decreasing_by exact length_of_readNumber? _read

/-- The bias before the first number. -/
def firstBias : Nat := 72

/-- The first code point that is written as a number. -/
def firstPoint : Nat := 128

/-- Read a text that is written in ASCII. -/
def decode? (text : List Char) : Option (List Char) :=
  let backwards := text.reverse
  let numbers := (backwards.takeWhile (· != '-')).reverse
  let kept := ((backwards.dropWhile (· != '-')).drop 1).reverse
  insertAll? firstBias firstPoint 0 kept numbers

end NodeTelemetry.Idna.Punycode
