/-
# Folders

What is below a folder, at any depth, by the names that lead there. A path may also lead
out of the folder; what is there is not known, and nothing stands in the way.
-/

import NodeTelemetry.Path

namespace NodeTelemetry

/-- Folders and files by the names that lead to them. A file implies the folders on the
way to it. -/
structure Folder where
  folders : List (List String) := []
  files : List (List String × String) := []
  deriving DecidableEq, Repr

namespace Folder

/-- Where a path has led: along these names, or out of the folder. -/
abbrev Place := Option (List String)

/-- The content of a file. -/
def content? (folder : Folder) (place : List String) : Option String :=
  (folder.files.find? fun (other, _) => other == place).map (·.2)

/-- Whether there is a folder at a place. -/
def hasFolder (folder : Folder) (place : List String) : Bool :=
  place.isEmpty || folder.folders.any (fun other => place.isPrefixOf other) ||
    folder.files.any fun (other, _) => place.isPrefixOf other && other != place

/-- Go along names; folders that are missing are made on the way. A file on the way, or a
name that no file may have, ends it. -/
def follow? (folder : Folder) : Place → List String → Option Place
  | place, [] => some place
  | none, _ :: rest => follow? folder none rest
  | some place, name :: rest =>
    if name = ".." then
      follow? folder (if place.isEmpty then none else some place.dropLast) rest
    else if !Path.isUsable name || (folder.content? (place ++ [name])).isSome then none
    else follow? folder (some (place ++ [name])) rest

/-- Add to the end of a file, which is made if it is missing. -/
def append (place : List String) (text : String) (folder : Folder) : Folder :=
  match folder.content? place with
  | none => { folder with files := folder.files ++ [(place, text)] }
  | some _ =>
    { folder with
      files := folder.files.map fun (other, content) =>
        (other, if other = place then content ++ text else content) }

/-- Add to the end of the file with a name in a directory, if it can be opened. -/
def appendIn? (folder : Folder) (directory name text : String) : Option Folder := do
  let start : Place := if Path.isAbsolute directory then none else some []
  let place ← folder.follow? start (Path.names directory)
  if !Path.isUsable name then none
  else match place with
    | none => return folder
    | some place =>
      if folder.hasFolder (place ++ [name]) then none
      else return folder.append (place ++ [name]) text

end Folder

end NodeTelemetry
