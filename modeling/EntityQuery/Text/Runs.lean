/-
# Runs of code points

The character properties and case mappings of Unicode are mostly regular: a
block of letters in a row, or upper and lower case alternating.  A `Run` is an
arithmetic progression of code points, and a `Shift` maps one progression onto
another with the same spacing.  The tables of this folder are lists of them.
-/

namespace EntityQuery
namespace Text

/-- The code points `first`, `first + step`, up to `last`. -/
structure Run where
  first : Nat
  last : Nat
  step : Nat

/-- Whether a code point belongs to the run. -/
def Run.holds (r : Run) (n : Nat) : Bool :=
  r.first ≤ n && n ≤ r.last && (n - r.first) % r.step == 0

/-- Whether some run of a table holds the character. -/
def inRuns (table : List Run) (c : Char) : Bool :=
  table.any fun r => r.holds c.toNat

/-- The run from `first` to `last`, sent to the code points as far from `target`. -/
structure Shift where
  first : Nat
  last : Nat
  step : Nat
  target : Nat

/-- Where a shift sends a code point, if the point is in its run. -/
def Shift.apply? (s : Shift) (n : Nat) : Option Nat :=
  if (Run.mk s.first s.last s.step).holds n then some (s.target + (n - s.first)) else none

end Text
end EntityQuery
