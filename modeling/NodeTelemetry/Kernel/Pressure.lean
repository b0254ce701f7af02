/-
# Pressure files

The kernel reports for each resource how long tasks waited, in lines of a kind and
fields: `some avg10=0.00 avg60=0.12 avg300=0.05 total=123456`. The line of kind `some`
has to be there; the line of kind `full` may be missing. Every field of every line has
to have a value, and the values of the known fields have to be numbers, also in lines of
unknown kinds. Of several lines of a kind, and of several fields of a name, the last
counts.
-/

import NodeTelemetry.Fault
import NodeTelemetry.Number.Literal
import NodeTelemetry.Snapshot.Node

namespace NodeTelemetry.Kernel

/-- What is wrong with a field. -/
inductive FieldFault where
  | noValue (field : String)
  | decimal (fault : Literal.DecimalFault)
  | whole (fault : Literal.WholeFault)
  deriving DecidableEq, Repr

def FieldFault.message : FieldFault → String
  | .noValue field => "Field '" ++ field ++ "' is not key=value"
  | .decimal fault => fault.message
  | .whole fault => fault.message

/-- What is wrong with a pressure file. -/
inductive PressureFault where
  | field (line : String) (fault : FieldFault)
  | noSomeLine
  deriving DecidableEq, Repr

def PressureFault.message : PressureFault → String
  | .field line fault => causeChain ["Invalid pressure line: " ++ line, fault.message]
  | .noSomeLine => "Pressure data has no 'some' line"

def readAverage (value : List Char) : Except FieldFault Binary64 :=
  (Literal.readDecimal value).mapError .decimal

def readTotal (value : List Char) : Except FieldFault UInt64 :=
  ((Literal.readWhole Literal.mostUInt64 value).mapError .whole).map UInt64.ofNat

/-- Take in one field. Fields of other names are ignored, but not without a value. -/
def readField (line : PressureLine) (field : List Char) : Except FieldFault PressureLine :=
  match Text.splitOnce '=' field with
  | none => .error (.noValue (String.ofList field))
  | some (key, value) =>
    if key = "avg10".toList then
      (readAverage value).map fun x => { line with avg10 := x }
    else if key = "avg60".toList then
      (readAverage value).map fun x => { line with avg60 := x }
    else if key = "avg300".toList then
      (readAverage value).map fun x => { line with avg300 := x }
    else if key = "total".toList then
      (readTotal value).map fun n => { line with total := n }
    else .ok line

/-- Read the fields from the left. -/
def readFields (line : PressureLine) : List (List Char) → Except FieldFault PressureLine
  | [] => .ok line
  | field :: rest =>
    match readField line field with
    | .error fault => .error fault
    | .ok next => readFields next rest

/-- The lines of the two kinds that were met so far. -/
structure PressureLines where
  someLine : Option PressureLine := none
  fullLine : Option PressureLine := none

/-- Keep a line by its kind. -/
def PressureLines.put (found : PressureLines) (kind : List Char) (line : PressureLine) :
    PressureLines :=
  if kind = "some".toList then { found with someLine := some line }
  else if kind = "full".toList then { found with fullLine := some line }
  else found

/-- Read the lines from the top. Lines without words are skipped. -/
def readPressureLines (found : PressureLines) :
    List (List Char) → Except PressureFault PressureLines
  | [] => .ok found
  | line :: rest =>
    match Text.words line with
    | [] => readPressureLines found rest
    | kind :: fields =>
      match readFields {} fields with
      | .error fault => .error (.field (String.ofList line) fault)
      | .ok read => readPressureLines (found.put kind read) rest

/-- Read a pressure file. -/
def readPressure (text : List Char) : Except PressureFault PressureReading :=
  match readPressureLines {} (Text.lines text) with
  | .error fault => .error fault
  | .ok found =>
    match found.someLine with
    | none => .error .noSomeLine
    | some line => .ok { someLine := line, fullLine := found.fullLine }

end NodeTelemetry.Kernel
