/-
# URLs

A URL begins with a scheme. Behind it comes the authority, if there is one: who asks, a
host and a port. A few schemes are known. Their URLs have to have a host, one slash or
many may stand before it, and a backslash counts as a slash. A file has a host only if it
is not on this machine. The rest of a URL is not looked into.
-/

import NodeTelemetry.Url.Host

namespace NodeTelemetry

/-- What is read from a URL. -/
structure Url where
  scheme : List Char
  host : Option Url.Host
  port : Option Nat
  deriving DecidableEq, Repr

namespace Url

/-- How a URL goes on behind its scheme. -/
inductive Kind where
  | file
  | known
  | unknown
  deriving DecidableEq, Repr

/-- Schemes that need a host. -/
def knownSchemes : List String := ["http", "https", "ws", "wss", "ftp"]

def Kind.ofScheme (scheme : List Char) : Kind :=
  let name := String.ofList (Text.lowerAscii scheme)
  if name = "file" then .file else if knownSchemes.contains name then .known else .unknown

/-- Whether a character counts as a slash where the scheme is known. -/
def isSlash (c : Char) : Bool := c == '/' || c == '\\'

/-- Whether a character ends the authority. -/
def endsAuthority (kind : Kind) (c : Char) : Bool :=
  c == '/' || c == '?' || c == '#' || (kind != .unknown && c == '\\')

/-- Characters of which nothing is seen: controls and blanks at both ends, and tabs and line
ends everywhere. -/
def visible (text : List Char) : List Char :=
  let isIdle (c : Char) : Bool := c.toNat ≤ 32
  let trimmed := ((text.dropWhile isIdle).reverse.dropWhile isIdle).reverse
  trimmed.filter fun c => !(c == '\t' || c == '\n' || c == '\r')

/-- Split off the scheme. -/
def splitScheme? (text : List Char) : Option (List Char × List Char) := do
  let (scheme, rest) ← Text.splitOnce ':' text
  let isPart (c : Char) : Bool := c.isAlphanum || c == '+' || c == '-' || c == '.'
  if scheme.head?.any Char.isAlpha && scheme.all isPart then return (scheme, rest) else none

/-- Split at the last occurrence of `mark`, which belongs to neither side. -/
def splitLast? (mark : Char) (text : List Char) : Option (List Char × List Char) :=
  (Text.splitOnce mark text.reverse).map fun (after, before) => (before.reverse, after.reverse)

/-- Split off the port at the first colon outside brackets. -/
def splitPort (inBrackets : Bool) : List Char → List Char × Option (List Char)
  | [] => ([], none)
  | c :: rest =>
    if c == ':' && !inBrackets then ([], some rest)
    else
      let (host, port) := splitPort (c == '[' || (inBrackets && c != ']')) rest
      (c :: host, port)

/-- The largest port. -/
def mostPort : Nat := 65535

/-- Read a port. No digits are no port. -/
def readPort (text : List Char) : Except Fault (Option Nat) :=
  let digits := text.takeWhile (· != '\\')
  let port := digits.foldl (fun n c => 10 * n + (c.toNat - 48)) 0
  if !digits.all Char.isDigit || mostPort < port then .error .badPort
  else .ok (if digits.isEmpty then none else some port)

/-- Read host and port of an authority. -/
def readHostAndPort (kind : Kind) (text : List Char) :
    Except Fault (Option Host × Option Nat) := do
  let (host, port) := splitPort false text
  if host.isEmpty then
    if kind == .known || port.isSome then .error .emptyHost else return (none, none)
  else
    let host ← if kind == .known then Host.ofKnown host else Host.ofUnknown host
    return (some host, ← readPort (port.getD []))

/-- Read what stands behind the slashes. Somebody who asks needs a host to ask. -/
def readAuthority (kind : Kind) (text : List Char) :
    Except Fault (Option Host × Option Nat) := do
  let authority := text.takeWhile fun c => !endsAuthority kind c
  let goesOn := authority.length < text.length
  match splitLast? '@' authority with
  | none => readHostAndPort kind authority
  | some (user, rest) =>
    if user.isEmpty && rest.isEmpty && goesOn then .error .emptyHost
    else
      let (host, port) ← readHostAndPort kind rest
      if host.isNone && user != [] && user != [':'] then .error .emptyHost
      else return (host, port)

/-! ## Files -/

/-- Whether a text is the letter of a drive. -/
def isDrive (text : List Char) : Bool :=
  match text with
  | [letter, mark] => letter.isAlpha && (mark == ':' || mark == '|')
  | _ => false

/-- Names that stand for the folder itself. -/
def isHere (name : List Char) : Bool :=
  [".", "%2e"].contains (String.ofList (Text.lowerAscii name))

/-- Names that stand for the folder above. -/
def isAbove (name : List Char) : Bool :=
  ["..", ".%2e", "%2e.", "%2e%2e"].contains (String.ofList (Text.lowerAscii name))

/-- Whether the first folder that a path of names goes into is a drive. -/
def reachesDrive (depth : Nat) : List (List Char) → Bool
  | [] => false
  | name :: rest =>
    if isHere name then reachesDrive depth rest
    else if isAbove name then reachesDrive (depth - 1) rest
    else (depth == 0 && isDrive name) || reachesDrive (depth + 1) rest

/-- The host of a file; `text` is what stands behind two slashes. -/
def readFileHost (text : List Char) : Except Fault (Option Host) := do
  let host := text.takeWhile fun c => !endsAuthority .file c
  let path := (text.drop host.length).takeWhile fun c => !(c == '?' || c == '#')
  if host.isEmpty || isDrive host then return none
  else
    let read ← Host.ofKnown host
    let isLocal := read == .domain "localhost".toList
    if isLocal || reachesDrive 0 (Text.splitWhere isSlash (path.drop 1)) then return none
    else return some read

/-! ## Reading -/

/-- Read a URL. -/
def read (text : String) : Except Fault Url := do
  let (scheme, rest) ← match splitScheme? (visible text.toList) with
    | some split => .ok split
    | none => .error .noScheme
  match Kind.ofScheme scheme, rest with
  | .known, _ =>
    let (host, port) ← readAuthority .known (rest.dropWhile isSlash)
    return { scheme, host, port }
  | .unknown, '/' :: '/' :: rest =>
    let (host, port) ← readAuthority .unknown rest
    return { scheme, host, port }
  | .file, first :: second :: rest =>
    let host ← if isSlash first && isSlash second then readFileHost rest else pure none
    return { scheme, host, port := none }
  | _, _ => return { scheme, host := none, port := none }

end Url

end NodeTelemetry
