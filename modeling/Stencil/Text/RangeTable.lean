/-!
# Sets of code points as sorted ranges

The bounds of the ranges of a set lie in one sorted array: a range starts at each
even place and stops before the bound at the next odd place.  A position belongs
to the set exactly when an odd number of bounds is at or below it.
-/

namespace Stencil.Text

/-- A set of code points, given by the sorted bounds of its ranges. -/
structure RangeTable where
  bounds : Array Nat

namespace RangeTable

/-- The number of bounds at or below a position, searched between two places. -/
def countUpTo
    (table : RangeTable)
    (position : Nat)
    (low high : Nat) : Nat :=
  if low < high then
    let middle := (low + high) / 2
    if table.bounds.getD middle 0 ≤ position then
      table.countUpTo position (middle + 1) high
    else
      table.countUpTo position low middle
  else
    low
termination_by high - low

/-- Whether a position belongs to the set. -/
def contains (table : RangeTable) (position : Nat) : Bool :=
  table.countUpTo position 0 table.bounds.size % 2 == 1

end RangeTable

end Stencil.Text
