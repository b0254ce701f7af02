/-
# Sets of characters

A set of characters is given by ranges of code points, in ascending order. Properties
of the Unicode standard are such sets.
-/

namespace NodeTelemetry.Text

/-- First and last code points of ranges. -/
structure CharSet where
  ranges : List (Nat × Nat)

/-- Whether a code point is in one of the ranges. -/
def CharSet.has (set : CharSet) (point : Nat) : Bool :=
  set.ranges.any fun (first, last) => first ≤ point && point ≤ last

/-- Whether a character is in the set. -/
def CharSet.contains (set : CharSet) (c : Char) : Bool := set.has c.toNat

end NodeTelemetry.Text
