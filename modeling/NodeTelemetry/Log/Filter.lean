/-
# Log filters

A filter says how much is logged, for everything or for a part of the program. It is
written as directives with commas between them: a level, a target, or a target and a
level with an equals sign between them. A target without a level is logged in full, and
of two directives for the same target the later one counts.

Directives for spans and for their fields, which stand in brackets and braces behind a
target, are left out: brackets and braces mean nothing here. Loading settings does not rely
on this, since it gets as a parameter which texts are filters.
-/

import NodeTelemetry.Number.Literal
import NodeTelemetry.Text.Alphanumeric
import NodeTelemetry.Text.Blank
import NodeTelemetry.Text.Quoted

namespace NodeTelemetry.Log

/-- How much is logged, from nothing to everything. -/
inductive Threshold where
  | off
  | error
  | warn
  | info
  | debug
  | trace
  deriving DecidableEq, Repr

namespace Threshold

def all : List Threshold := [.off, .error, .warn, .info, .debug, .trace]

def name : Threshold → String
  | .off => "off"
  | .error => "error"
  | .warn => "warn"
  | .info => "info"
  | .debug => "debug"
  | .trace => "trace"

/-- A threshold is read from its name in any case, or from its place in the list as a
number. -/
def ofText? (text : List Char) : Option Threshold :=
  match Literal.readWhole Literal.mostUInt64 text with
  | .ok place => all[place]?
  | .error _ => all.find? fun threshold => Text.sameIgnoringAsciiCase text threshold.name.toList

end Threshold

/-- A threshold for a target, or for everything. -/
structure Directive where
  target : Option String
  threshold : Threshold
  deriving DecidableEq, Repr

namespace Directive

/-- Characters with which a directive may begin. -/
def mayBegin (c : Char) : Bool :=
  c == '-' || c == ':' || c == '_' || Text.alphanumerics.contains c

/-- A directive without an equals sign. -/
def ofWord (word : List Char) : Directive :=
  match Threshold.ofText? word with
  | some threshold => ⟨none, threshold⟩
  | none => ⟨some (String.ofList word), .trace⟩

/-- The place of the equals sign is counted in bytes of the text without the blanks around
it, and the parts are then cut out of the text with them. -/
def ofText? (text : List Char) : Option Directive :=
  let trimmed := Text.trim text
  match trimmed with
  | [] => none
  | first :: _ =>
    if !mayBegin first then none
    else
      let before := trimmed.takeWhile (· != '=')
      if before.length = trimmed.length then some (ofWord text)
      else
        let (target, rest) := Text.splitAtByte (Text.byteLength before) text
        let target := String.ofList target
        match rest.drop 1 with
        | [] => some ⟨some target, .trace⟩
        | level => (Threshold.ofText? level).map fun threshold => ⟨some target, threshold⟩

/-- How a directive is written. -/
def text (directive : Directive) : String :=
  match directive.target with
  | none => directive.threshold.name
  | some target => target ++ "=" ++ directive.threshold.name

/-- The order in which directives are tried: longer targets first, then by the targets
from the end of the alphabet, and last the one without a target. -/
def comesBefore (first second : Directive) : Bool :=
  match first.target, second.target with
  | none, _ => false
  | some _, none => true
  | some one, some other =>
    if one.utf8ByteSize = other.utf8ByteSize then decide (other < one)
    else other.utf8ByteSize < one.utf8ByteSize

/-- Put a directive in its place, instead of one for the same target. -/
def insert (directive : Directive) : List Directive → List Directive
  | [] => [directive]
  | other :: rest =>
    if other.target = directive.target then directive :: rest
    else if directive.comesBefore other then directive :: other :: rest
    else other :: insert directive rest

end Directive

/-- Directives in the order in which they are tried, no two for the same target. -/
structure Filter where
  directives : List Directive
  deriving DecidableEq, Repr

/-- A text that is no filter. -/
structure FilterFault where
  text : String
  deriving DecidableEq, Repr

def FilterFault.message (fault : FilterFault) : String :=
  "Invalid log filter " ++ Text.quoted fault.text

namespace Filter

/-- Read a filter. Nothing between two commas is no directive. -/
def ofText? (text : String) : Option Filter := do
  let parts := (Text.splitWhere (· == ',') text.toList).filter fun part => !part.isEmpty
  let directives ← parts.mapM Directive.ofText?
  return ⟨directives.foldl (fun sorted directive => directive.insert sorted) []⟩

/-- How a filter is written. -/
def text (filter : Filter) : String := ",".intercalate (filter.directives.map Directive.text)

/-- What to read: the override, unless there is none or it is blank, else the configured
level. -/
def choose (override : Option String) (level : String) : String :=
  match override with
  | none => level
  | some text => if (Text.trim text.toList).isEmpty then level else text

/-- The filter in force. -/
def inForce (override : Option String) (level : String) : Except FilterFault Filter :=
  let text := choose override level
  match ofText? text with
  | some filter => .ok filter
  | none => .error ⟨text⟩

end Filter

end NodeTelemetry.Log
