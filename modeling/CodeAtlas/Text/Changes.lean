/-!
# Character properties as change points

A property of characters is held as the ascending code points where it changes its value, starting
from "does not hold" at zero. A character has the property exactly when an odd number of change
points lie at or below it.
-/

namespace CodeAtlas.Text

/-- How many entries of the ascending `points` are at most `n`, given that all before `low` are and
none from `high` on is. -/
def countUpTo (points : Array Nat) (n low high : Nat) : Nat :=
  if low < high then
    let middle := (low + high) / 2
    if (points[middle]?).any (· ≤ n) then countUpTo points n (middle + 1) high
    else countUpTo points n low middle
  else low
termination_by high - low

/-- Whether the property with these change points holds at the code point `n`. -/
def holdsAt (points : Array Nat) (n : Nat) : Bool :=
  countUpTo points n 0 points.size % 2 == 1

end CodeAtlas.Text
