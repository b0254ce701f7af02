/-
# Paths

A path is a row of names with slashes between them. An empty name says nothing, nor does
a single point, unless the path begins with it. The last name of a path is what the path
names, and what stands before it is the directory.
-/

import NodeTelemetry.Text.Blank

namespace NodeTelemetry.Path

/-- Drop the slashes and the single points that say nothing at the front of a path that is
written backwards. A slash that is the whole path stays. -/
def dropIdle : List Char → List Char
  | '/' :: c :: rest => dropIdle (c :: rest)
  | '.' :: '/' :: rest => dropIdle ('/' :: rest)
  | path => path
termination_by path => path.length

/-- The directory of a path and the name in it. A path that ends in two points names
nothing, and neither does one without a name. -/
def split? (path : String) : Option (String × String) :=
  let whole := dropIdle path.toList.reverse
  let name := String.ofList (whole.takeWhile (· != '/')).reverse
  let directory := dropIdle (whole.dropWhile (· != '/'))
  if ["", ".", ".."].contains name then none
  else if directory.isEmpty then some (".", name)
  else some (String.ofList directory.reverse, name)

/-- Whether a path begins at the root of all files. -/
def isAbsolute (path : String) : Bool := path.toList.head? == some '/'

/-- The names that a path leads along. -/
def names (path : String) : List String :=
  ((Text.splitWhere (· == '/') path.toList).map String.ofList).filter fun name =>
    name != "" && name != "."

/-- How many bytes a name may have. -/
def longestName : Nat := 255

/-- Whether a file may have a name. -/
def isUsable (name : String) : Bool :=
  name.utf8ByteSize ≤ longestName && !name.toList.contains '\x00'

end NodeTelemetry.Path
