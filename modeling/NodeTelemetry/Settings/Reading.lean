/-
# Reading settings

Settings are read loosely: a number may be given as a text, a text as a number, and a
switch as either. What cannot be read that way makes the whole configuration invalid.
-/

import NodeTelemetry.Number.Literal
import NodeTelemetry.Number.Shortest
import NodeTelemetry.Settings.Tree

namespace NodeTelemetry.Settings.Tree

/-- Words that switch something on. -/
def onWords : List String := ["true", "on", "yes"]

/-- Words that switch something off. -/
def offWords : List String := ["false", "off", "no"]

/-- Whether a text is one of some words, in any case. -/
def isOneOf (words : List String) (text : String) : Bool := words.contains (fold text)

/-- An unsigned number up to `most`. -/
def number? (most : Nat) (tree : Tree) : Option Nat :=
  let value : Option Int := match tree with
    | .whole value => some value
    | .flag value => some (if value then 1 else 0)
    | .real value => some (value.roundAwayWithin 0 (0x10000000000000000 - 1))
    | .text value =>
      if isOneOf onWords value then some 1
      else if isOneOf offWords value then some 0
      else (Literal.readWhole Literal.mostUInt64 value.toList).toOption.map Int.ofNat
    | _ => none
  match value with
  | some n => if 0 ≤ n ∧ n ≤ most then some n.toNat else none
  | none => none

/-- A switch. -/
def switch? : Tree → Option Bool
  | .flag value => some value
  | .whole value => some (value != 0)
  | .real value => some (!value.isZero)
  | .text value =>
    if isOneOf ("1" :: onWords) value then some true
    else if isOneOf ("0" :: offWords) value then some false
    else none
  | _ => none

/-- A text. -/
def text? : Tree → Option String
  | .text value => some value
  | .flag value => some (if value then "true" else "false")
  | .whole value => some (toString value)
  | .real value => some value.toDecimalText
  | _ => none

/-- One of some words, in any case, or a table whose only name is one. -/
def word? (words : List String) (tree : Tree) : Option String :=
  let choice (name : String) := words.find? fun word => fold word == fold name
  match tree with
  | .text value => choice value
  | .table [(name, _)] => choice name
  | _ => none

/-- A setting that may be missing, but not null. -/
def required? {α : Type} (read : Tree → Option α) (standard : α) : Option Tree → Option α
  | none => some standard
  | some tree => read tree

/-- A setting that may be missing or null. -/
def optional? {α : Type} (read : Tree → Option α) : Option Tree → Option (Option α)
  | none => some none
  | some .null => some none
  | some tree => (read tree).map some

/-- The values of some names: those of a table, or the items of a list in order. -/
def slots? (names : List String) : Tree → Option (List (Option Tree))
  | .table members => some (names.map fun name => Members.find? members name)
  | .list items => some ((List.range names.length).map fun index => items[index]?)
  | _ => none

end NodeTelemetry.Settings.Tree
