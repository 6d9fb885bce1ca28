/-!
# Sets of code points

A property of characters is stored as the intervals of code points that have it, in increasing
order. `contains` walks the list and stops at the first interval past its argument.
-/

namespace WikiText.Unicode

/-- A set of code points: closed intervals, in increasing order and apart from each other. -/
abbrev Intervals := List (Nat × Nat)

/-- Whether a code point lies in one of the intervals. -/
def Intervals.contains : Intervals → Nat → Bool
  | [], _ => false
  | (low, high) :: rest, n =>
    if n < low then false else n ≤ high || Intervals.contains rest n

end WikiText.Unicode
