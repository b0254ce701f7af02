/-
# URLs that can be dialled

A request can only be sent to a URL that is written strictly: with a scheme, two slashes
and an authority of plain characters, and without anything in its path and its query that
has to be written with a percent sign. A few characters are let through in the path all
the same. Behind a number sign anything may stand.
-/

import NodeTelemetry.Text.Blank

namespace NodeTelemetry.Url

/-- How many bytes a URL may have. -/
def longestUrl : Nat := 65534

/-- How many characters a scheme may have. -/
def longestScheme : Nat := 64

/-- Split at the scheme and the two slashes behind it. -/
def splitStrictly? (text : List Char) : Option (List Char) := do
  let isPart (c : Char) : Bool := c.isAlphanum || c == '+' || c == '-' || c == '.'
  let (scheme, rest) ← Text.splitOnce ':' text
  match rest with
  | '/' :: '/' :: rest =>
    if scheme.all isPart && scheme.length ≤ longestScheme then return rest else none
  | _ => none

/-- Characters of an authority that mean nothing there. -/
def isPlain (c : Char) : Bool := c.isAlphanum || "!$&'()*+,-.;=_~".toList.contains c

/-- What has been seen of an authority. Brackets hold an address and may be used once; what
stands before one ends, or before an at sign, does not count. -/
structure Seen where
  colons : Nat := 0
  percent : Bool := false
  opened : Bool := false
  closed : Bool := false
  deriving DecidableEq, Repr

namespace Seen

/-- How many colons may be seen before they cease to count. -/
def mostColons : Nat := 8

/-- The next character. -/
def next? (seen : Seen) (c : Char) : Option Seen :=
  match c with
  | ':' => if seen.colons < mostColons then some { seen with colons := seen.colons + 1 } else none
  | '[' => if seen.percent || seen.opened then none else some { seen with opened := true }
  | ']' =>
    if seen.opened && !seen.closed then
      some { seen with closed := true, colons := 0, percent := false }
    else none
  | '@' => some { seen with colons := 0, percent := false }
  | '%' => some { seen with percent := true }
  | _ => if isPlain c then some seen else none

/-- Whether an authority may end here. -/
def mayEnd (seen : Seen) : Bool :=
  seen.opened == seen.closed && seen.colons ≤ 1 && !seen.percent

end Seen

/-- Whether an authority is acceptable. -/
def isStrictAuthority (text : List Char) : Bool :=
  !text.isEmpty && text.getLast? != some '@' && (text.foldlM Seen.next? {}).any Seen.mayEnd

/-- Visible ASCII characters. -/
def isVisibleAscii (c : Char) : Bool := 33 ≤ c.toNat && c.toNat ≤ 126

/-- Characters that may stand in a path. -/
def isPathCharacter (c : Char) : Bool := isVisibleAscii c && !"#<>?`".toList.contains c

/-- Characters that may stand in a query. -/
def isQueryCharacter (c : Char) : Bool := isVisibleAscii c && !"\"#<>".toList.contains c

/-- Whether what stands behind the authority is acceptable. -/
def isStrictRest (text : List Char) : Bool :=
  let checked := text.takeWhile (· != '#')
  let path := checked.takeWhile (· != '?')
  let query := (checked.drop path.length).drop 1
  path.all isPathCharacter && query.all isQueryCharacter

/-- Whether a request can be sent to a URL. -/
def isDialable (text : String) : Bool :=
  let endsAuthority (c : Char) : Bool := c == '/' || c == '?' || c == '#'
  text.utf8ByteSize ≤ longestUrl &&
    match splitStrictly? text.toList with
    | none => false
    | some rest =>
      isStrictAuthority (rest.takeWhile fun c => !endsAuthority c) &&
        isStrictRest (rest.dropWhile fun c => !endsAuthority c)

end NodeTelemetry.Url
