/-
# Setting trees

Settings come in layers: a file, then the environment, then flags. Each layer is laid
into one tree. Tables are merged, whatever else is set replaces what was there, and
names are compared without regard to the case of ASCII letters. What a text in the
tree means is decided when a setting is read.
-/

import NodeTelemetry.Number.Binary64
import NodeTelemetry.Text.Blank

namespace NodeTelemetry.Settings

/-- A setting or a table of settings. -/
inductive Tree where
  | null
  | flag (value : Bool)
  | whole (value : Int)
  | real (value : Binary64)
  | text (value : String)
  | list (items : List Tree)
  /-- Settings by name; no name occurs twice. -/
  | table (members : List (String × Tree))
  deriving Inhabited

namespace Tree

/-- Settings by name. -/
abbrev Members := List (String × Tree)

def Members.find? (members : Members) (name : String) : Option Tree :=
  members.findSome? fun (other, tree) => if other = name then some tree else none

/-- Set a name, which keeps its place if it is already there. -/
def Members.put (name : String) (tree : Tree) : Members → Members
  | [] => [(name, tree)]
  | (other, old) :: rest =>
    if other = name then (other, tree) :: rest else (other, old) :: put name tree rest

/-- The settings of a table; anything else has none. -/
def members : Tree → Members
  | .table members => members
  | _ => []

/-- The form in which names are compared. -/
def fold (name : String) : String := String.ofList (Text.lowerAscii name.toList)

mutual

/-- Set a name in a table. A table is merged with what the name stands for, and anything
else replaces it. -/
def place (name : String) (value : Tree) (members : Members) : Members :=
  match value with
  | .table incoming =>
    members.put (fold name) (merge incoming ((members.find? (fold name)).getD (.table [])))
  | .null => members.put (fold name) .null
  | .flag value => members.put (fold name) (.flag value)
  | .whole value => members.put (fold name) (.whole value)
  | .real value => members.put (fold name) (.real value)
  | .text value => members.put (fold name) (.text value)
  | .list items => members.put (fold name) (.list items)

/-- Set every name of a table in another one. -/
def merge (incoming : List (String × Tree)) (target : Tree) : Tree :=
  match incoming with
  | [] => target
  | (name, value) :: rest => merge rest (.table (place name value target.members))

end

/-- Set what a path of names leads to. -/
def placeAt : List String → Tree → Members → Members
  | [], _, members => members
  | [name], value, members => place name value members
  | name :: rest, value, members =>
    members.put (fold name)
      (.table (placeAt rest value (((members.find? (fold name)).map Tree.members).getD [])))

/-- Characters of the names in a dotted path. -/
def isNameChar (c : Char) : Bool :=
  c.isAlphanum || c == ' ' || c == '_' || c == '-'

/-- The path that a dotted name stands for. A name that is no dotted path stands for
itself. -/
def pathOf (name : String) : List String :=
  let pieces := Text.splitWhere (· == '.') name.toList
  if pieces.all fun piece => !piece.isEmpty && piece.all isNameChar then
    pieces.map String.ofList
  else [name]

/-- Lay a layer of dotted names over a tree. -/
def lay (layer : Members) (members : Members) : Members :=
  layer.foldl (fun members (name, value) => placeAt (pathOf name) value members) members

end Tree

end NodeTelemetry.Settings
