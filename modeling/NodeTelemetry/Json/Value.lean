/-
# JSON trees

A tree keeps whole numbers exactly, other numbers as doubles, and the members of
an object in the order they were written, repetitions included; which of two equal
names counts is for the reader of a record to decide. A value that is well formed
and that still no reader accepts is kept as `unreadable`, because it does no harm
where it is skipped.
-/

import NodeTelemetry.Number.Binary64

namespace NodeTelemetry

/-- A JSON value. -/
inductive Json where
  | null
  | bool (value : Bool)
  /-- A number written without point and exponent, from `-2 ^ 63` to `2 ^ 64 - 1`. -/
  | whole (value : Int)
  /-- Any other number within the range of a double. -/
  | real (value : Binary64)
  | text (value : String)
  | list (items : List Json)
  | object (members : List (String × Json))
  /-- A number beyond every double, a text whose escapes name half of a surrogate
  pair, or an object with such a text for a name. -/
  | unreadable
  deriving Inhabited

namespace Json

/-- An object with the given names and values, in order. -/
def record (names : List String) (values : List Json) : Json :=
  .object (names.zip values)

/-- An absent value is written as null. -/
def ofOption (write : α → Json) : Option α → Json
  | none => .null
  | some value => write value

def ofUInt64 (n : UInt64) : Json := .whole n.toNat
def ofUInt32 (n : UInt32) : Json := .whole n.toNat
def ofInt64 (n : Int64) : Json := .whole n.toInt

/-- Only finite doubles have a JSON form; the others are written as null. -/
def ofBinary64 (x : Binary64) : Json := if x.isFinite then .real x else .null

def ofList (write : α → Json) (items : List α) : Json := .list (items.map write)

/-- Read a whole number between `least` and `most`. -/
def wholeWithin? (least most : Int) : Json → Option Int
  | .whole n => if least ≤ n ∧ n ≤ most then some n else none
  | _ => none

def uint64? (json : Json) : Option UInt64 :=
  (json.wholeWithin? 0 (0x10000000000000000 - 1)).map fun n => UInt64.ofNat n.toNat

def uint32? (json : Json) : Option UInt32 :=
  (json.wholeWithin? 0 (0x100000000 - 1)).map fun n => UInt32.ofNat n.toNat

def int64? (json : Json) : Option Int64 :=
  (json.wholeWithin? (-0x8000000000000000) (0x8000000000000000 - 1)).map Int64.ofInt

/-- Every number is a double; null is none. -/
def binary64? : Json → Option Binary64
  | .whole n => some (Binary64.ofInt n)
  | .real x => some x
  | _ => none

def text? : Json → Option String
  | .text s => some s
  | _ => none

def bool? : Json → Option Bool
  | .bool b => some b
  | _ => none

def list? (read : Json → Option α) : Json → Option (List α)
  | .list items => items.mapM read
  | _ => none

/-- The name of a case without data: a text, or an object whose one member is null. -/
def caseName? : Json → Option String
  | .text name => some name
  | .object [(name, .null)] => some name
  | _ => none

/-- The first member with the given name. -/
def member? (name : String) (members : List (String × Json)) : Option Json :=
  members.findSome? fun (other, value) => if other = name then some value else none

/-- How many members have the given name. -/
def occurrences (name : String) (members : List (String × Json)) : Nat :=
  members.countP fun (other, _) => other == name

/-- The values of the named fields in order, `none` where a field is missing. A record
is an object in which no field occurs twice, other members being ignored, or a list
with exactly one item for each field. -/
def slots? (names : List String) : Json → Option (List (Option Json))
  | .object members =>
    if names.all fun name => occurrences name members ≤ 1 then
      some (names.map fun name => member? name members)
    else none
  | .list items => if items.length = names.length then some (items.map some) else none
  | _ => none

/-- Read a field that has to be there. -/
def required? (read : Json → Option α) (slot : Option Json) : Option α :=
  slot.bind read

/-- Read a field that may be missing or null. -/
def optional? (read : Json → Option α) : Option Json → Option (Option α)
  | none => some none
  | some .null => some none
  | some json => (read json).map some

end Json

end NodeTelemetry
