/-
# Settings from the environment

A variable whose name starts with the prefix is a setting. Two underscores in the rest
of the name separate a table from a name in it. A value that reads as a truth value or
as a number is one, and everything else is a text.
-/

import NodeTelemetry.Number.Literal
import NodeTelemetry.Settings.Tree

namespace NodeTelemetry.Settings

/-- Variables and their values. -/
abbrev Environment := List (String × String)

namespace Environment

/-- The latest value of a variable. -/
def find? (environment : Environment) (name : String) : Option String :=
  environment.foldl (fun found (other, value) => if other = name then some value else found) none

/-- With what the names of settings start. -/
def leadingText : String := "agent_"

/-- The variable that sets what a dotted name leads to. -/
def variableOf (setting : String) : String :=
  let spread := setting.toList.flatMap fun c => if c == '.' then ['_', '_'] else [c]
  String.ofList ((leadingText.toList ++ spread).map Char.toUpper)

/-- The setting that a value stands for. -/
def guess (value : String) : Tree :=
  let text := value.toList
  if Tree.fold value = "true" then .flag true
  else if Tree.fold value = "false" then .flag false
  else match Literal.readInt64? text with
    | some n => .whole n
    | none =>
      match Literal.readDecimal text with
      | .ok x => .real x
      | .error _ => .text value

/-- Put a point for every two underscores. -/
def dotted : List Char → List Char
  | '_' :: '_' :: rest => '.' :: dotted rest
  | c :: rest => c :: dotted rest
  | [] => []

/-- The setting that a variable stands for, if it stands for one. -/
def setting? (name value : String) : Option (String × Tree) :=
  let folded := (Tree.fold name).toList
  if leadingText.toList.isPrefixOf folded then
    some (String.ofList (dotted (folded.drop leadingText.length)), guess value)
  else none

/-- The layer of settings in the environment. -/
def layer (environment : Environment) : Tree.Members :=
  environment.filterMap fun (name, value) => setting? name value

end Environment

end NodeTelemetry.Settings
