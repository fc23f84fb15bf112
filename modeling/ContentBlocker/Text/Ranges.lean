/-!
# Sets of code points

A set of characters is given by its closed intervals of code points, in ascending order.
-/

namespace ContentBlocker.Text

/-- Closed intervals of code points, ascending and apart. -/
abbrev Ranges := List (Nat × Nat)

/-- Whether a code point lies in one of the intervals. -/
def Ranges.has : Ranges → Nat → Bool
  | [], _ => false
  | (lo, hi) :: rest, n => if n < lo then false else if n ≤ hi then true else Ranges.has rest n

end ContentBlocker.Text
