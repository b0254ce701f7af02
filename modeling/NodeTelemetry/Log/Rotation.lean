/-
# Rolling over

A log file that is rolled over has the date in its name, down to the field that changes
when the next file is begun.
-/

namespace NodeTelemetry

/-- When a log file is rolled over. -/
inductive Rotation where
  | minutely
  | hourly
  | daily
  | never
  deriving DecidableEq, Repr

/-- Fields of a date, the largest first. -/
inductive DateField where
  | year
  | month
  | day
  | hour
  | minute
  deriving DecidableEq, Repr

/-- How many digits a field is written with. -/
def DateField.width : DateField → Nat
  | .year => 4
  | _ => 2

namespace Rotation

def all : List Rotation := [.minutely, .hourly, .daily, .never]

def name : Rotation → String
  | .minutely => "minutely"
  | .hourly => "hourly"
  | .daily => "daily"
  | .never => "never"

def ofName? (text : String) : Option Rotation := all.find? fun rotation => rotation.name == text

/-- The fields of the date in the name of a file. -/
def fields : Rotation → List DateField
  | .minutely => [.year, .month, .day, .hour, .minute]
  | .hourly => [.year, .month, .day, .hour]
  | .daily => [.year, .month, .day]
  | .never => []

/-- The name of the file for a date, given how its fields are written. -/
def stampedName (rotation : Rotation) (write : DateField → String) (name : String) : String :=
  match rotation.fields with
  | [] => name
  | fields => name ++ "." ++ "-".intercalate (fields.map write)

end Rotation

end NodeTelemetry
