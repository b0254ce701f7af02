/-
# Tables of a TOML document

Names are assigned once. What may be added to a table later depends on how the table came
to be: one with a header of its own is not opened again, and a dotted name leads only
into tables that come from dotted names or are on the way to a header.
-/

import NodeTelemetry.Settings.Tree

namespace NodeTelemetry.Settings.Toml

/-- How a table came to be. -/
inductive Origin where
  /-- By a header of its own. -/
  | header
  /-- By a header of a table further down. -/
  | onTheWay
  /-- By the dotted name of an assignment. -/
  | dotted
  deriving DecidableEq, Repr

/-- What a name stands for while a document is read. -/
inductive Node where
  | value (tree : Tree)
  | table (origin : Origin) (members : List (String × Node))
  /-- Tables under one header, which is repeated for each of them. -/
  | tables (items : List (List (String × Node)))

/-- Names with what they stand for. -/
abbrev Nodes := List (String × Node)

namespace Nodes

def find? (nodes : Nodes) (name : String) : Option Node :=
  nodes.findSome? fun (other, node) => if other = name then some node else none

/-- Replace what a name stands for, or add the name. -/
def put (name : String) (node : Node) : Nodes → Nodes
  | [] => [(name, node)]
  | (other, old) :: rest =>
    if other = name then (other, node) :: rest else (other, old) :: put name node rest

/-- Change the table that a path leads to, where a list of tables stands for its last one.
Tables that are missing are made with the given origin. A dotted name does not lead into
a table that has a header of its own. -/
def modify? (origin : Origin) (change : Origin → Nodes → Option Nodes) (here : Origin) :
    List String → Nodes → Option Nodes
  | [], nodes => change here nodes
  | name :: rest, nodes =>
    match nodes.find? name with
    | none =>
      (modify? origin change origin rest []).map fun inner => nodes.put name (.table origin inner)
    | some (.value _) => none
    | some (.table found inner) =>
      if origin = .dotted ∧ found = .header then none
      else (modify? origin change found rest inner).map fun inner =>
        nodes.put name (.table found inner)
    | some (.tables items) =>
      match items.getLast? with
      | none => none
      | some last => (modify? origin change .header rest last).map fun inner =>
          nodes.put name (.tables (items.dropLast ++ [inner]))

/-- Add a value under a name that stands for nothing. -/
def add? (name : String) (value : Tree) (nodes : Nodes) : Option Nodes :=
  if (nodes.find? name).isSome then none else some (nodes.put name (.value value))

/-- Assign to a dotted name. The table that it goes to has to come from dotted names, too. -/
def assign? (path : List String) (value : Tree) (nodes : Nodes) : Option Nodes :=
  match path with
  | [] => none
  | [name] => nodes.add? name value
  | _ =>
    let change (origin : Origin) (inner : Nodes) : Option Nodes :=
      if origin = .dotted then inner.add? (path.getLastD "") value else none
    modify? .dotted change .dotted path.dropLast nodes

/-- Open the table with a header. It may have been on the way to another one. -/
def openTable? (path : List String) (nodes : Nodes) : Option Nodes :=
  let change (_ : Origin) (inner : Nodes) : Option Nodes :=
    let name := path.getLastD ""
    match inner.find? name with
    | none => some (inner.put name (.table .header []))
    | some (.table .onTheWay members) => some (inner.put name (.table .header members))
    | _ => none
  modify? .onTheWay change .header path.dropLast nodes

/-- Open one more table under a header that is repeated. -/
def openItem? (path : List String) (nodes : Nodes) : Option Nodes :=
  let change (_ : Origin) (inner : Nodes) : Option Nodes :=
    let name := path.getLastD ""
    match inner.find? name with
    | none => some (inner.put name (.tables [[]]))
    | some (.tables items) => some (inner.put name (.tables (items ++ [[]])))
    | _ => none
  modify? .onTheWay change .header path.dropLast nodes

/-- Assign in the table that a header has opened. -/
def assignIn? (header path : List String) (value : Tree) (nodes : Nodes) : Option Nodes :=
  modify? .onTheWay (fun _ inner => inner.assign? path value) .header header nodes

end Nodes

mutual

/-- The setting that a node stands for. -/
def Node.tree : Node → Tree
  | .value tree => tree
  | .table _ members => .table (Node.membersOf members)
  | .tables items => .list (Node.treesOf items)

/-- The settings of a table. -/
def Node.membersOf : List (String × Node) → Tree.Members
  | [] => []
  | (name, node) :: rest => (name, node.tree) :: Node.membersOf rest

/-- The settings of tables. -/
def Node.treesOf : List (List (String × Node)) → List Tree
  | [] => []
  | members :: rest => .table (Node.membersOf members) :: Node.treesOf rest

end

end NodeTelemetry.Settings.Toml
