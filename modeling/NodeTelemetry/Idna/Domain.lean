/-
# Internationalized domain names

A domain is a row of labels with points between them. It is read once capital letters and
other variants have been replaced. A label may be written in ASCII behind `xn--`, but only
if it needs that. A domain is refused if it has a character that means something in an
address, a character that no domain may hold, a label that begins with a combining mark,
a joiner where nothing is joined, or labels that cannot be read in one direction.
-/

import NodeTelemetry.Idna.Direction
import NodeTelemetry.Idna.Joining
import NodeTelemetry.Idna.Mapping
import NodeTelemetry.Idna.Punycode
import NodeTelemetry.Idna.Refused
import NodeTelemetry.Text.Mark

namespace NodeTelemetry.Idna

/-- Whether a character is an ASCII character. -/
def isAscii (c : Char) : Bool := c.toNat < 128

/-- ASCII characters that no domain may hold: controls, the blank, and those that mean
something in an address. -/
def isForbidden (c : Char) : Bool :=
  c.toNat ≤ 32 || c.toNat == 127 || "%#/:<>?@[\\]^|".toList.contains c

/-- What a character becomes, unless it is refused. -/
def replace? (c : Char) : Option (List Char) :=
  if isAscii c then some [c.toLower]
  else if refused.contains c then none
  else some ((replacement? c).getD [c])

/-- Whether a character can stand in a label that has been read. -/
def isPlain (c : Char) : Bool := replace? c == some [c]

/-- Whether a label that has been read is acceptable on its own. -/
def isAcceptable (label : List Char) : Bool :=
  !label.head?.any Text.marks.contains && joinersInPlace [] label

/-- With what a label begins that is written in ASCII. -/
def asciiMark : List Char := "xn--".toList

/-- Read a label. One that is written in ASCII has to stand for characters outside ASCII. -/
def readLabel? (label : List Char) : Option (List Char) :=
  if asciiMark.isPrefixOf label then
    match Punycode.decode? (label.drop asciiMark.length) with
    | some decoded =>
      if label.all isAscii && !decoded.all isAscii && decoded.all isPlain
          && isAcceptable decoded then
        some decoded
      else none
    | none => none
  else if label.all isAscii || isAcceptable label then some label
  else none

/-- The labels of a domain. -/
def labels? (text : List Char) : Option (List (List Char)) := do
  let replaced ← text.mapM replace?
  let plain := replaced.flatten
  if plain.any isForbidden then none
  else
    let labels ← (Text.splitWhere (· == '.') plain).mapM readLabel?
    if readableTogether labels then return labels else none

/-- A domain in the form in which domains are compared. -/
def domain? (text : List Char) : Option (List Char) :=
  (labels? text).map fun labels => ['.'].intercalate labels

end NodeTelemetry.Idna
