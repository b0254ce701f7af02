/-
# Settings in YAML

Settings files use a small part of YAML: block mappings and sequences that are told apart
by indentation, lists and mappings in brackets on one line, and scalars that are plain or
quoted on one line. A plain scalar is a number, a truth value or null if it looks like one.

Anything else is not read, such as anchors, tags, and scalars of several lines, although it
may be well formed. Loading settings does not rely on this, since it gets as a parameter what
a file comes to.
-/

import NodeTelemetry.Number.Literal
import NodeTelemetry.Settings.Tree
import NodeTelemetry.Text.Hex

namespace NodeTelemetry.Settings.Yaml

open Literal

/-! ## Lines -/

/-- A line that is neither blank nor a comment: how far it is indented, and its text. -/
structure Line where
  indent : Nat
  text : List Char

def isGap (c : Char) : Bool := c == ' ' || c == '\t'

def dropGapsAtEnd (text : List Char) : List Char := (text.reverse.dropWhile isGap).reverse

/-- The text in front of a comment. A comment begins at a hash after a blank, and not
within quotes. -/
def dropComment (quote : Option Char) (previous : Char) : List Char → List Char
  | [] => []
  | c :: rest =>
    match quote with
    | some mark =>
      c :: dropComment (if c == mark && previous != '\\' then none else quote) c rest
    | none =>
      if c == '#' && isGap previous then []
      else if (c == '"' || c == '\x27') && (isGap previous || previous == '[' ||
          previous == '\x7b' || previous == ',') then
        c :: dropComment (some c) c rest
      else c :: dropComment none c rest

/-- The line in a piece of text, if it holds one. Tabs may not indent. -/
def lineOf? (text : List Char) : Option (Option Line) :=
  let indent := (text.takeWhile (· == ' ')).length
  let body := dropGapsAtEnd (dropComment none ' ' (text.drop indent))
  match body with
  | [] => some none
  | '\t' :: _ => none
  | _ => some (some ⟨indent, body⟩)

/-- The lines of a document. -/
def linesOf? (text : List Char) : Option (List Line) := do
  let lines ← (Text.lines text).mapM lineOf?
  match lines.filterMap id with
  | ⟨0, ['-', '-', '-']⟩ :: rest => return rest
  | lines => return lines

/-! ## Scalars -/

/-- The value of a plain scalar. -/
def plain (text : List Char) : Option Tree :=
  let whole? (base : Nat) (digits : List Char) : Option Int :=
    if !digits.isEmpty && digits.all fun c => (Text.hexDigit? c).any fun digit => digit < base
    then some (digits.foldl (fun n c => base * n + (Text.hexDigit? c).getD 0) 0 : Nat)
    else none
  let decimal : Option Tree :=
    let word := String.ofList text
    if word = "~" || word = "null" then some .null
    else if word = "true" then some (.flag true)
    else if word = "false" then some (.flag false)
    else match readInt64? text with
      | some n => some (.whole n)
      | none =>
        match readDecimal text with
        | .ok x => some (.real x)
        | .error _ =>
          if [".inf", ".Inf", ".INF", "+.inf", "+.Inf", "+.INF", "-.inf", "-.Inf", "-.INF",
              ".nan", ".NAN"].contains word then none
          else some (.text word)
  match text with
  | [] => some .null
  | '0' :: 'x' :: digits => (whole? 16 digits).elim decimal fun n => some (.whole n)
  | '0' :: 'o' :: digits => (whole? 8 digits).elim decimal fun n => some (.whole n)
  | _ => decimal

/-- The character of an escape that has no number. -/
def plainEscape? : Char → Option Char
  | '0' => some '\x00'
  | 'a' => some '\x07'
  | 'b' => some '\x08'
  | 't' => some '\t'
  | 'n' => some '\n'
  | 'v' => some '\x0b'
  | 'f' => some '\x0c'
  | 'r' => some '\r'
  | 'e' => some '\x1b'
  | ' ' => some ' '
  | '"' => some '"'
  | '/' => some '/'
  | '\\' => some '\\'
  | _ => none

/-- The number of digits of an escape with a number. -/
def escapeLength? : Char → Option Nat
  | 'x' => some 2
  | 'u' => some 4
  | 'U' => some 8
  | _ => none

/-- The character of an escape after its backslash. -/
def readEscape? : List Char → Option (Char × List Char)
  | [] => none
  | mark :: rest =>
    match escapeLength? mark with
    | none => (plainEscape? mark).map fun c => (c, rest)
    | some length => do
      let values ← (rest.take length).mapM Text.hexDigit?
      let n := values.foldl (fun n digit => 16 * n + digit) 0
      if values.length = length ∧ n.isValidChar then some (Char.ofNat n, rest.drop length)
      else none

/-- A text in double quotes, after the first one. -/
def readDouble? : Nat → List Char → Option (List Char × List Char)
  | 0, _ => none
  | fuel + 1, text =>
    match text with
    | [] => none
    | '"' :: rest => some ([], rest)
    | '\\' :: rest => do
      let (c, rest) ← readEscape? rest
      let (chars, after) ← readDouble? fuel rest
      return (c :: chars, after)
    | c :: rest => (readDouble? fuel rest).map fun (chars, after) => (c :: chars, after)

/-- A text in single quotes, after the first one. Two quotes stand for one. -/
def readSingle? : List Char → Option (List Char × List Char)
  | [] => none
  | '\x27' :: '\x27' :: rest =>
    (readSingle? rest).map fun (chars, after) => ('\x27' :: chars, after)
  | '\x27' :: rest => some ([], rest)
  | c :: rest => (readSingle? rest).map fun (chars, after) => (c :: chars, after)

/-- A quoted text. -/
def readQuoted? : List Char → Option (List Char × List Char)
  | '"' :: rest => readDouble? (rest.length + 1) rest
  | '\x27' :: rest => readSingle? rest
  | _ => none

/-- Whether a plain scalar may begin here. -/
def beginsPlain : List Char → Bool
  | [] => true
  | c :: rest =>
    if c == '-' || c == '?' || c == ':' then
      match rest with
      | [] => false
      | next :: _ => !isGap next
    else !(",[]\x7b\x7d&*!|>%@#\"".toList.contains c || c == '\x27' || c.toNat == 0x60)

/-- Whether a colon followed by a blank or the end is in a text. -/
def hasColon : List Char → Bool
  | [] => false
  | [':'] => true
  | ':' :: next :: rest => isGap next || hasColon (next :: rest)
  | _ :: rest => hasColon rest

/-! ## Lists and mappings in brackets -/

def skipGap (text : List Char) : List Char := text.dropWhile isGap

/-- Characters that end a plain scalar within brackets. -/
def endsInner (c : Char) : Bool :=
  c == ',' || c == '[' || c == ']' || c == '\x7b' || c == '\x7d'

/-- The characters of a plain scalar within brackets. -/
def takeInner : List Char → List Char
  | [] => []
  | ':' :: next :: rest =>
    if isGap next || endsInner next then [] else ':' :: takeInner (next :: rest)
  | c :: rest => if endsInner c || (c == ':' && rest.isEmpty) then [] else c :: takeInner rest

mutual

/-- A value within brackets. -/
def readInner? : Nat → List Char → Option (Tree × List Char)
  | 0, _ => none
  | fuel + 1, text =>
    match skipGap text with
    | '[' :: rest => (readItems? fuel rest).map fun (items, after) => (.list items, after)
    | '\x7b' :: rest => (readPairs? fuel rest).map fun (members, after) => (.table members, after)
    | text =>
      match readQuoted? text with
      | some (chars, after) => some (.text (String.ofList chars), after)
      | none =>
        let word := takeInner text
        if beginsPlain text then
          (plain (dropGapsAtEnd word)).map fun value => (value, text.drop word.length)
        else none

/-- The items of a list after its opening bracket or a comma. -/
def readItems? : Nat → List Char → Option (List Tree × List Char)
  | 0, _ => none
  | fuel + 1, text => do
    match skipGap text with
    | ']' :: after => return ([], after)
    | text =>
      let (item, rest) ← readInner? fuel text
      match skipGap rest with
      | ']' :: after => return ([item], after)
      | ',' :: rest =>
        let (items, after) ← readItems? fuel rest
        return (item :: items, after)
      | _ => none

/-- The members of a mapping after its opening brace or a comma. -/
def readPairs? : Nat → List Char → Option (Tree.Members × List Char)
  | 0, _ => none
  | fuel + 1, text => do
    match skipGap text with
    | '\x7d' :: after => return ([], after)
    | text =>
      let (name, rest) ← match readQuoted? text with
        | some result => some result
        | none =>
          let word := takeInner text
          if word.isEmpty || !beginsPlain text then none
          else some (dropGapsAtEnd word, text.drop word.length)
      match skipGap rest with
      | ':' :: rest =>
        let (value, rest) ← readInner? fuel rest
        let member := (String.ofList name, value)
        match skipGap rest with
        | '\x7d' :: after => return ([member], after)
        | ',' :: rest =>
          let (members, after) ← readPairs? fuel rest
          return (member :: members, after)
        | _ => none
      | _ => none

end

/-! ## Blocks -/

/-- A value that is written on one line. -/
def readInline? (text : List Char) : Option Tree :=
  match text with
  | '[' :: _ | '\x7b' :: _ | '"' :: _ | '\x27' :: _ => do
    let (value, rest) ← readInner? (2 * text.length + 2) text
    if (skipGap rest).isEmpty then some value else none
  | _ => if beginsPlain text && !hasColon text then plain text else none

/-- Split a line into a name and what follows the colon. -/
def splitName? (text : List Char) : Option (String × List Char) :=
  match readQuoted? text with
  | some (name, rest) =>
    match skipGap rest with
    | ':' :: rest => some (String.ofList name, skipGap rest)
    | _ => none
  | none =>
    if beginsPlain text then (split text).map fun (name, rest) =>
      (String.ofList (dropGapsAtEnd name), skipGap rest)
    else none
where
  split : List Char → Option (List Char × List Char)
    | [] => none
    | [':'] => some ([], [])
    | ':' :: next :: rest =>
      if isGap next then some ([], next :: rest)
      else (split (next :: rest)).map fun (name, after) => (':' :: name, after)
    | c :: rest => (split rest).map fun (name, after) => (c :: name, after)

/-- The text after the hyphen of an item of a sequence. -/
def itemText? : List Char → Option (List Char)
  | ['-'] => some []
  | '-' :: next :: rest => if isGap next then some (next :: rest) else none
  | _ => none

/-- The lines that are indented by more than `indent`, and the others after them. -/
def deeper (indent : Nat) (lines : List Line) : List Line × List Line :=
  (lines.takeWhile fun line => indent < line.indent,
    lines.dropWhile fun line => indent < line.indent)

/-- Lines below a name belong to it as well if they are items of a sequence at the same
indentation. -/
def below (indent : Nat) (lines : List Line) : List Line × List Line :=
  match lines with
  | line :: _ =>
    if line.indent = indent && (itemText? line.text).isSome then
      let belongs (line : Line) : Bool :=
        indent < line.indent || (line.indent == indent && (itemText? line.text).isSome)
      (lines.takeWhile belongs, lines.dropWhile belongs)
    else deeper indent lines
  | [] => ([], [])

mutual

/-- The value that lines hold; no lines hold null. -/
def readBlock? : Nat → List Line → Option Tree
  | 0, _ => none
  | _ + 1, [] => some .null
  | fuel + 1, line :: rest =>
    if (itemText? line.text).isSome then
      (readSequence? fuel line.indent (line :: rest)).map .list
    else if (splitName? line.text).isSome then
      (readMapping? fuel line.indent (line :: rest)).map .table
    else if rest.isEmpty then readInline? line.text
    else none

/-- The items of a sequence. -/
def readSequence? : Nat → Nat → List Line → Option (List Tree)
  | 0, _, _ => none
  | _ + 1, _, [] => some []
  | fuel + 1, indent, line :: rest => do
    if line.indent != indent then none
    let text ← itemText? line.text
    let (inner, after) := deeper indent rest
    let gap := (text.takeWhile isGap).length
    let own : List Line := match text.drop gap with
      | [] => []
      | text => [⟨indent + 1 + gap, text⟩]
    return (← readBlock? fuel (own ++ inner)) :: (← readSequence? fuel indent after)

/-- The members of a mapping. Of equal names the last one counts. -/
def readMapping? : Nat → Nat → List Line → Option Tree.Members
  | 0, _, _ => none
  | _ + 1, _, [] => some []
  | fuel + 1, indent, line :: rest => do
    if line.indent != indent then none
    let (name, text) ← splitName? line.text
    let (inner, after) := below indent rest
    let value ← if text.isEmpty then readBlock? fuel inner
      else if inner.isEmpty then readInline? text
      else none
    return (name, value) :: (← readMapping? fuel indent after)

end

/-- The settings in a document. -/
def read? (text : String) : Option Tree.Members := do
  let lines ← linesOf? text.toList
  match ← readBlock? (2 * text.length + 2) lines with
  | .table members => return members
  | .null => if lines.isEmpty then return [] else none
  | _ => none

end NodeTelemetry.Settings.Yaml
