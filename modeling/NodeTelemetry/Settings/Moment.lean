/-
# Dates and times

A setting may be written as a date, as a time of day, or as both with a letter or a blank
between them, and then with the distance from universal time. A moment is a text as soon
as it is read: with the letter, without zeros at the end of a fraction, and with no more
of a fraction than billionths of a second.
-/

namespace NodeTelemetry.Settings

structure Date where
  year : Nat
  month : Nat
  day : Nat
  deriving DecidableEq, Repr

structure TimeOfDay where
  hour : Nat
  minute : Nat
  second : Nat
  /-- Digits of a fraction of a second, none of them a zero at the end. -/
  fraction : List Char
  deriving DecidableEq, Repr

/-- A date, a time, or both, with the distance from universal time as it is written. -/
structure Moment where
  date : Option Date
  time : Option TimeOfDay
  offset : String
  deriving DecidableEq, Repr

namespace Moment

/-- Skip a character. -/
def skip? (c : Char) : List Char → Option (List Char)
  | [] => none
  | other :: rest => if other = c then some rest else none

/-- Read exactly `count` digits that are a number within bounds. -/
def number? (count low high : Nat) (text : List Char) : Option (Nat × List Char) :=
  let digits := text.take count
  let n := digits.foldl (fun n c => 10 * n + (c.toNat - 48)) 0
  if digits.length = count ∧ digits.all Char.isDigit ∧ low ≤ n ∧ n ≤ high then
    some (n, text.drop count)
  else none

/-- Whether a year has a day more. -/
def isLeap (year : Nat) : Bool := year % 4 == 0 && (year % 100 != 0 || year % 400 == 0)

/-- The number of days in a month. -/
def daysIn (year month : Nat) : Nat :=
  if month = 2 then (if isLeap year then 29 else 28)
  else if [4, 6, 9, 11].contains month then 30
  else 31

def readDate? (text : List Char) : Option (Date × List Char) := do
  let (year, rest) ← number? 4 0 9999 text
  let (month, rest) ← number? 2 1 12 (← skip? '-' rest)
  let (day, rest) ← number? 2 1 (daysIn year month) (← skip? '-' rest)
  return ({ year, month, day }, rest)

/-- How many digits of a fraction of a second count. -/
def mostFraction : Nat := 9

/-- Read a fraction, if there is one. -/
def readFraction? (text : List Char) : Option (List Char × List Char) :=
  match text with
  | '.' :: rest =>
    let digits := rest.takeWhile Char.isDigit
    if digits.isEmpty then none
    else
      let counted := (digits.take mostFraction).reverse.dropWhile (· == '0')
      some (counted.reverse, rest.drop digits.length)
  | _ => some ([], text)

/-- A second may be a leap second. -/
def readTime? (text : List Char) : Option (TimeOfDay × List Char) := do
  let (hour, rest) ← number? 2 0 23 text
  let (minute, rest) ← number? 2 0 59 (← skip? ':' rest)
  let (second, rest) ← number? 2 0 60 (← skip? ':' rest)
  let (fraction, rest) ← readFraction? rest
  return ({ hour, minute, second, fraction }, rest)

/-- A number in at least `width` digits. -/
def padded (width n : Nat) : String :=
  let digits := Nat.toDigits 10 n
  String.ofList (List.replicate (width - digits.length) '0' ++ digits)

/-- Read the distance from universal time, if there is one, as it is written. -/
def readOffset? (text : List Char) : Option (String × List Char) :=
  let distance (sign : Char) (rest : List Char) : Option (String × List Char) := do
    let (hour, rest) ← number? 2 0 23 rest
    let (minute, rest) ← number? 2 0 59 (← skip? ':' rest)
    let sign := if hour = 0 ∧ minute = 0 then '+' else sign
    return (sign.toString ++ padded 2 hour ++ ":" ++ padded 2 minute, rest)
  match text with
  | 'Z' :: rest => some ("Z", rest)
  | 'z' :: rest => some ("Z", rest)
  | '+' :: rest => distance '+' rest
  | '-' :: rest => distance '-' rest
  | _ => some ("", text)

/-- Read a moment and return what follows it. A time has a distance from universal time only
if it has a date. -/
def read? (text : List Char) : Option (Moment × List Char) :=
  match readDate? text with
  | some (date, rest) =>
    let later? : Option (Moment × List Char) := do
      let mark :: rest := rest | none
      let (time, rest) ← if ['T', 't', ' '].contains mark then readTime? rest else none
      let (offset, rest) ← readOffset? rest
      return ({ date := some date, time := some time, offset }, rest)
    some (later?.getD ({ date := some date, time := none, offset := "" }, rest))
  | none =>
    (readTime? text).map fun (time, rest) =>
      ({ date := none, time := some time, offset := "" }, rest)

def Date.text (date : Date) : String :=
  padded 4 date.year ++ "-" ++ padded 2 date.month ++ "-" ++ padded 2 date.day

def TimeOfDay.text (time : TimeOfDay) : String :=
  padded 2 time.hour ++ ":" ++ padded 2 time.minute ++ ":" ++ padded 2 time.second ++
    (if time.fraction.isEmpty then "" else "." ++ String.ofList time.fraction)

/-- How a moment is written. -/
def text (moment : Moment) : String :=
  let date := (moment.date.map Date.text).getD ""
  let time := (moment.time.map TimeOfDay.text).getD ""
  date ++ (if moment.date.isSome && moment.time.isSome then "T" else "") ++ time ++ moment.offset

end Moment

end NodeTelemetry.Settings
