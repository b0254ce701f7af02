/-
# Loose access to JSON trees

For trees in which everything may be left out: whatever is missing or of another kind
than expected reads as null, zero, false, or as an empty text or list.
-/

import NodeTelemetry.Json.Value

namespace NodeTelemetry.Json

/-- The members of an object. -/
def members : Json → List (String × Json)
  | .object members => members
  | _ => []

/-- A field of an object. -/
def field (json : Json) (name : String) : Json := (member? name json.members).getD .null

/-- Whether an object has a field. -/
def has (json : Json) (name : String) : Bool := json.members.any fun (other, _) => other == name

/-- The items of a list. -/
def items : Json → List Json
  | .list items => items
  | _ => []

def toText (json : Json) : String := json.text?.getD ""

/-- Numbers that are not whole are rounded. -/
def toInt : Json → Int
  | .whole n => n
  | .real x => x.roundAway?.getD 0
  | _ => 0

def toNat (json : Json) : Nat := json.toInt.toNat

def toFlag (json : Json) : Bool := json.bool?.getD false

/-- Null is the absence of a value. -/
def toOption {α : Type} (read : Json → α) : Json → Option α
  | .null => none
  | json => some (read json)

end NodeTelemetry.Json
