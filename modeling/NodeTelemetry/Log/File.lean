/-
# Log files

A log file is given by a path. It is made when it is opened, together with the folders
that lead to it, and what is written goes to its end.
-/

import NodeTelemetry.Folder
import NodeTelemetry.Log.Rotation

namespace NodeTelemetry.Log

/-- A log file by the directory that it is in and by its name without a date. -/
structure File where
  directory : String
  name : String
  deriving DecidableEq, Repr

/-- Why a log file cannot be written. -/
inductive FileFault where
  /-- The path names no file. -/
  | noName (path : String)
  /-- There is no way to the directory, or something else has the name of the file. -/
  | unopened (directory : String)
  deriving DecidableEq, Repr

def FileFault.message : FileFault → String
  | .noName path => "Log file " ++ path ++ " has no file name"
  | .unopened directory => "Failed to open log file in " ++ directory

namespace File

/-- The log file that a path names. -/
def ofPath (path : String) : Except FileFault File :=
  match Path.split? path with
  | some (directory, name) => .ok ⟨directory, name⟩
  | none => .error (.noName path)

/-- Open the file for a date, given how the fields of the date are written, and write
texts to it. -/
def write (file : File) (rotation : Rotation) (stamp : DateField → String)
    (texts : List String) (folder : Folder) : Except FileFault Folder :=
  match folder.appendIn? file.directory (rotation.stampedName stamp file.name)
      (String.join texts) with
  | some folder => .ok folder
  | none => .error (.unopened file.directory)

end File

end NodeTelemetry.Log
