/-
# Settings files

The format of a settings file is known by the extension of its name. If there is no file
of the name that was given, the name is tried with each known extension.
-/

import NodeTelemetry.Json.Reader
import NodeTelemetry.Settings.Toml
import NodeTelemetry.Settings.Yaml

namespace NodeTelemetry.Settings

inductive Format where
  | toml
  | json
  | yaml
  deriving DecidableEq, Repr

namespace Format

/-- Extensions of names, with the formats that they stand for. -/
def extensions : List (String × Format) :=
  [("toml", .toml), ("json", .json), ("yaml", .yaml), ("yml", .yaml)]

/-- The part of a path behind the last slash. -/
def baseName (path : List Char) : List Char := (path.reverse.takeWhile (· != '/')).reverse

/-- The part of a name behind the last point, unless the point comes first. -/
def extension? (path : String) : Option String :=
  let name := baseName path.toList
  let ending := (name.reverse.takeWhile (· != '.')).reverse
  if ending.length + 1 < name.length then some (String.ofList ending) else none

/-- The format of a file. -/
def ofPath? (path : String) : Option Format := do
  let extension ← extension? path
  (extensions.find? fun (known, _) => known == extension).map (·.2)

end Format

/-- How many lists and objects a settings file may nest. -/
def deepestNesting : Nat := 127

mutual

/-- A JSON value as a setting. Whole numbers that fit no signed 64-bit word are rounded. -/
def Tree.ofJson? : Json → Option Tree
  | .null => some .null
  | .bool value => some (.flag value)
  | .whole n =>
    some (if -0x8000000000000000 ≤ n ∧ n < 0x8000000000000000 then .whole n
      else .real (Binary64.ofInt n))
  | .real x => some (.real x)
  | .text value => some (.text value)
  | .list items => (Tree.listOfJson? items).map .list
  | .object members => (Tree.membersOfJson? members).map .table
  | .unreadable => none

def Tree.listOfJson? : List Json → Option (List Tree)
  | [] => some []
  | item :: rest => do return (← Tree.ofJson? item) :: (← Tree.listOfJson? rest)

/-- Of equal names the last one counts. -/
def Tree.membersOfJson? : List (String × Json) → Option Tree.Members
  | [] => some []
  | (name, json) :: rest => do
    let tree ← Tree.ofJson? json
    let others ← Tree.membersOfJson? rest
    return if others.any fun (other, _) => other == name then others
      else (name, tree) :: others

end

/-- The settings in a text. -/
def Format.read? (format : Format) (text : String) : Option Tree.Members :=
  match format with
  | .toml => Toml.read? text
  | .yaml => Yaml.read? text
  | .json => do
    match ← (Json.parseWithin? deepestNesting text).bind Tree.ofJson? with
    | .table members => return members
    | _ => none

/-- The names under which a settings file is looked for. -/
def candidates (path : String) : List String :=
  path :: Format.extensions.map fun (extension, _) => path ++ "." ++ extension

/-- The layer of settings in a file; `read?` says what a text comes to, and `look` gives the
text of a file, if it exists. -/
def fileLayer? (read? : Format → String → Option Tree.Members) (look : String → Option String)
    (path : String) : Option Tree.Members :=
  match look path with
  | some text => (Format.ofPath? path).bind fun format => read? format text
  | none =>
    Format.extensions.findSome? (fun (extension, format) =>
      (look (path ++ "." ++ extension)).map fun text => (format, text)) |>.bind
        fun (format, text) => read? format text

end NodeTelemetry.Settings
