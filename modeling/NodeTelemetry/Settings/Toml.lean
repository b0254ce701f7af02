/-
# Settings in TOML

A document is a sequence of lines: assignments to names, dotted or not, and headers that
say which table the assignments after them go to. A name may be assigned once, and a
table may be opened by one header. Dates and times are texts.
-/

import NodeTelemetry.Number.Literal
import NodeTelemetry.Settings.Moment
import NodeTelemetry.Settings.Toml.Table
import NodeTelemetry.Settings.Tree
import NodeTelemetry.Text.Hex

namespace NodeTelemetry.Settings.Toml

open Literal

/-! ## Blanks and line ends -/

def isGap (c : Char) : Bool := c == ' ' || c == '\t'

def skipGap (text : List Char) : List Char := text.dropWhile isGap

/-- Controls that may not occur in a document, the tab and line ends apart. -/
def isForbidden (c : Char) : Bool := (c.toNat < 0x20 && c != '\t') || c.toNat == 0x7F

/-- What follows a comment, if one begins here. -/
def skipComment? : List Char → Option (List Char)
  | '#' :: rest =>
    let body := rest.takeWhile fun c => c != '\n' && c != '\r'
    if body.any isForbidden then none else some (rest.drop body.length)
  | rest => some rest

/-- What follows the rest of a line that holds nothing but blanks and a comment. -/
def endLine? (text : List Char) : Option (List Char) := do
  match ← skipComment? (skipGap text) with
  | [] => some []
  | '\n' :: rest => some rest
  | '\r' :: '\n' :: rest => some rest
  | _ => none

/-- Blanks, comments and line ends between the items of a list. -/
def skipLines? : Nat → List Char → Option (List Char)
  | 0, text => some text
  | fuel + 1, text => do
    match ← skipComment? (skipGap text) with
    | '\n' :: rest => skipLines? fuel rest
    | '\r' :: '\n' :: rest => skipLines? fuel rest
    | rest => some rest

/-! ## Texts -/

/-- The character with a number in hexadecimal digits. -/
def numbered? (digits : List Char) : Option Char := do
  let values ← digits.mapM Text.hexDigit?
  let n := values.foldl (fun n digit => 16 * n + digit) 0
  if n.isValidChar then some (Char.ofNat n) else none

/-- The character of an escape that has no number. -/
def plainEscape? : Char → Option Char
  | 'b' => some '\x08'
  | 't' => some '\t'
  | 'n' => some '\n'
  | 'f' => some '\x0c'
  | 'r' => some '\r'
  | '"' => some '"'
  | '\\' => some '\\'
  | _ => none

/-- The character of an escape after its backslash. -/
def readEscape? : List Char → Option (Char × List Char)
  | 'u' :: rest =>
    if rest.length < 4 then none
    else (numbered? (rest.take 4)).map fun c => (c, rest.drop 4)
  | 'U' :: rest =>
    if rest.length < 8 then none
    else (numbered? (rest.take 8)).map fun c => (c, rest.drop 8)
  | mark :: rest => (plainEscape? mark).map fun c => (c, rest)
  | [] => none

/-- A text in double quotes, after the first one. -/
def readBasic? : Nat → List Char → Option (List Char × List Char)
  | 0, _ => none
  | fuel + 1, text =>
    match text with
    | [] => none
    | '"' :: rest => some ([], rest)
    | '\\' :: rest => do
      let (c, rest) ← readEscape? rest
      let (chars, after) ← readBasic? fuel rest
      return (c :: chars, after)
    | c :: rest =>
      if isForbidden c then none
      else (readBasic? fuel rest).map fun (chars, after) => (c :: chars, after)

/-- A text in single quotes, after the first one. -/
def readLiteral? : List Char → Option (List Char × List Char)
  | [] => none
  | '\x27' :: rest => some ([], rest)
  | c :: rest =>
    if isForbidden c then none
    else (readLiteral? rest).map fun (chars, after) => (c :: chars, after)

/-- Up to two quotes before the closing three belong to the text. -/
def closing? (quote : Char) (text : List Char) : Option (List Char × List Char) :=
  let run := min (text.takeWhile (· == quote)).length 5
  if 3 ≤ run then some (List.replicate (run - 3) quote, text.drop run) else none

/-- The blanks and line ends after a backslash at the end of a line. -/
def skipContinuation? (text : List Char) : Option (List Char) :=
  match skipGap text with
  | '\n' :: rest => some (rest.dropWhile fun c => isGap c || c == '\n' || c == '\r')
  | '\r' :: '\n' :: rest => some (rest.dropWhile fun c => isGap c || c == '\n' || c == '\r')
  | _ => none

/-- A text over several lines, after its first three quotes. -/
def readLong? (quote : Char) : Nat → List Char → Option (List Char × List Char)
  | 0, _ => none
  | fuel + 1, text =>
    match closing? quote text with
    | some result => some result
    | none =>
      match text with
      | [] => none
      | '\\' :: rest =>
        if quote != '"' then
          (readLong? quote fuel rest).map fun (chars, after) => ('\\' :: chars, after)
        else match skipContinuation? rest with
          | some rest => readLong? quote fuel rest
          | none => do
            let (c, rest) ← readEscape? rest
            let (chars, after) ← readLong? quote fuel rest
            return (c :: chars, after)
      | '\r' :: '\n' :: rest =>
        (readLong? quote fuel rest).map fun (chars, after) => ('\n' :: chars, after)
      | c :: rest =>
        if isForbidden c && c != '\n' then none
        else (readLong? quote fuel rest).map fun (chars, after) => (c :: chars, after)

/-- A line end directly after the first three quotes is left out. -/
def dropFirstEnd : List Char → List Char
  | '\n' :: rest => rest
  | '\r' :: '\n' :: rest => rest
  | rest => rest

/-! ## Names -/

def isBare (c : Char) : Bool := c.isAlphanum || c == '_' || c == '-'

/-- One name: bare, or between quotes. -/
def readName? (text : List Char) : Option (String × List Char) :=
  match text with
  | '"' :: rest =>
    (readBasic? rest.length rest).map fun (chars, after) => (String.ofList chars, after)
  | '\x27' :: rest => (readLiteral? rest).map fun (chars, after) => (String.ofList chars, after)
  | _ =>
    let name := text.takeWhile isBare
    if name.isEmpty then none else some (String.ofList name, text.drop name.length)

/-- Names with points between them. -/
def readPath? : Nat → List Char → Option (List String × List Char)
  | 0, _ => none
  | fuel + 1, text => do
    let (name, rest) ← readName? (skipGap text)
    match skipGap rest with
    | '.' :: more =>
      let (names, after) ← readPath? fuel more
      return (name :: names, after)
    | rest => return ([name], rest)

/-! ## Values -/

/-- Characters of numbers and words. -/
def isWordChar (c : Char) : Bool :=
  c.isAlphanum || c == '_' || c == '-' || c == '+' || c == '.'

/-- Digits in which single underscores stand between digits. -/
def dropUnderscores? (isDigitHere : Char → Bool) (text : List Char) : Option (List Char) :=
  let groups := Text.splitWhere (· == '_') text
  if groups.all fun group => !group.isEmpty && group.all isDigitHere then some groups.flatten
  else none

/-- A number with another base than ten. -/
def readBased? (base : Nat) (digits : List Char) : Option Int := do
  let own (c : Char) : Bool := ((Text.hexDigit? c).map (decide <| · < base)).getD false
  let digits ← dropUnderscores? own digits
  let n := digits.foldl (fun n c => base * n + (Text.hexDigit? c).getD 0) 0
  if n < 0x8000000000000000 then some n else none

/-- A whole number has no leading zero. -/
def noLeadingZero : List Char → Bool
  | ['0'] => true
  | '0' :: _ => false
  | _ => true

/-- A decimal whole number. -/
def readWhole? (text : List Char) : Option Int := do
  let (negative, digits) := splitSign text
  let digits ← dropUnderscores? isDigit digits
  if !noLeadingZero digits then none
  else
    let n : Int := digitsValue 0 digits
    let value := if negative then -n else n
    if -0x8000000000000000 ≤ value ∧ value < 0x8000000000000000 then some value else none

/-- A number with a point or a power of ten. Digits must not stand for a number above all
others. -/
def readReal? (text : List Char) : Option Binary64 := do
  let (negative, rest) := splitSign text
  if rest = "inf".toList then some (Binary64.infinity negative)
  else if rest = "nan".toList then some (Binary64.nan negative)
  else
    let mantissa := rest.takeWhile fun c => c != 'e' && c != 'E'
    let power := rest.drop mantissa.length
    let (whole, fraction) := (mantissa.takeWhile (· != '.'), mantissa.dropWhile (· != '.'))
    let whole ← dropUnderscores? isDigit whole
    let fraction ← match fraction with
      | [] => some []
      | _ :: digits => (dropUnderscores? isDigit digits).map ('.' :: ·)
    let power ← match power with
      | [] => some []
      | _ :: digits =>
        let (down, run) := splitSign digits
        (dropUnderscores? isDigit run).map fun run => 'e' :: (if down then '-' :: run else run)
    if !noLeadingZero whole || (fraction.isEmpty && power.isEmpty) then none
    else
      (readUnsignedDecimal? negative (whole ++ fraction ++ power)).filter
        fun x => x != Binary64.infinity false

/-- The value of a word. -/
def readWord? (word : List Char) : Option Tree :=
  if word = "true".toList then some (.flag true)
  else if word = "false".toList then some (.flag false)
  else match word with
    | '0' :: 'x' :: digits => (readBased? 16 digits).map .whole
    | '0' :: 'o' :: digits => (readBased? 8 digits).map .whole
    | '0' :: 'b' :: digits => (readBased? 2 digits).map .whole
    | _ =>
      match readWhole? word with
      | some n => some (.whole n)
      | none => (readReal? word).map .real

/-! ## Values in lists and in tables within a line -/

mutual

/-- A value. Every step into a list or a table, and every item, uses a unit of `fuel`. -/
def readValue? : Nat → List Char → Option (Tree × List Char)
  | 0, _ => none
  | fuel + 1, text =>
    match text with
    | '"' :: '"' :: '"' :: rest => (readLong? '"' rest.length (dropFirstEnd rest)).map
        fun (chars, after) => (.text (String.ofList chars), after)
    | '\x27' :: '\x27' :: '\x27' :: rest => (readLong? '\x27' rest.length (dropFirstEnd rest)).map
        fun (chars, after) => (.text (String.ofList chars), after)
    | '"' :: rest => (readBasic? rest.length rest).map
        fun (chars, after) => (.text (String.ofList chars), after)
    | '\x27' :: rest => (readLiteral? rest).map
        fun (chars, after) => (.text (String.ofList chars), after)
    | '[' :: rest => (readItems? fuel rest).map fun (items, after) => (.list items, after)
    | '\x7b' :: rest =>
      match skipGap rest with
      | '\x7d' :: after => some (.table [], after)
      | rest => (readPairs? fuel rest []).map fun (nodes, after) =>
          (.table (Node.membersOf nodes), after)
    | _ =>
      match Moment.read? text with
      | some (moment, after) => some (.text moment.text, after)
      | none =>
        let word := text.takeWhile isWordChar
        (readWord? word).map fun value => (value, text.drop word.length)

/-- The items of a list, after its opening bracket or a comma. -/
def readItems? : Nat → List Char → Option (List Tree × List Char)
  | 0, _ => none
  | fuel + 1, text => do
    match ← skipLines? text.length text with
    | ']' :: after => return ([], after)
    | rest =>
      let (item, rest) ← readValue? fuel rest
      match ← skipLines? rest.length rest with
      | ']' :: after => return ([item], after)
      | ',' :: rest =>
        let (items, after) ← readItems? fuel rest
        return (item :: items, after)
      | _ => none

/-- The assignments of a table within a line. -/
def readPairs? : Nat → List Char → Nodes → Option (Nodes × List Char)
  | 0, _, _ => none
  | fuel + 1, text, nodes => do
    let (path, rest) ← readPath? text.length text
    match rest with
    | '=' :: rest =>
      let (value, rest) ← readValue? fuel (skipGap rest)
      let nodes ← nodes.assign? path value
      match skipGap rest with
      | '\x7d' :: after => return (nodes, after)
      | ',' :: rest => readPairs? fuel rest nodes
      | _ => none
    | _ => none

end

/-! ## Documents -/

/-- Settings read so far, and the header that assignments stand under. -/
structure Document where
  nodes : Nodes := []
  header : List String := []

/-- One line. -/
def readLine? (text : List Char) (document : Document) : Option (Document × List Char) :=
  match skipGap text with
  | '[' :: '[' :: rest => do
    let (path, rest) ← readPath? rest.length rest
    match rest with
    | ']' :: ']' :: rest =>
      return (⟨← document.nodes.openItem? path, path⟩, ← endLine? rest)
    | _ => none
  | '[' :: rest => do
    let (path, rest) ← readPath? rest.length rest
    match rest with
    | ']' :: rest => return (⟨← document.nodes.openTable? path, path⟩, ← endLine? rest)
    | _ => none
  | text =>
    match endLine? text with
    | some rest => some (document, rest)
    | none => do
      let (path, rest) ← readPath? text.length text
      match rest with
      | '=' :: rest =>
        let (value, rest) ← readValue? (2 * rest.length + 2) (skipGap rest)
        let nodes ← document.nodes.assignIn? document.header path value
        return ({ document with nodes }, ← endLine? rest)
      | _ => none

/-- All lines. -/
def readLines? : Nat → List Char → Document → Option Document
  | _, [], document => some document
  | 0, _ :: _, _ => none
  | fuel + 1, text, document => do
    let (document, rest) ← readLine? text document
    readLines? fuel rest document

/-- Drop the mark that a document may begin with to show how its bytes are to be read. -/
def dropByteOrderMark : List Char → List Char
  | '\uFEFF' :: rest => rest
  | text => text

/-- The settings in a document. -/
def read? (text : String) : Option Tree.Members :=
  let text := dropByteOrderMark text.toList
  (readLines? (text.length + 1) text {}).map fun document => Node.membersOf document.nodes

end NodeTelemetry.Settings.Toml
