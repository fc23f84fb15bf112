/-!
# Places in a text

A place is named by the number of characters before it, and by its line and column, which count
from one.
-/

namespace ContentBlocker.Text

structure Place where
  offset : Nat
  line : Nat
  column : Nat
deriving DecidableEq, Repr

/-- The place after the given characters. -/
def Place.after (passed : List Char) : Place where
  offset := passed.length
  line := passed.count '\n' + 1
  column := (passed.reverse.takeWhile (· ≠ '\n')).length + 1

/-- The place in a text where `remaining` characters are left. -/
def Place.before (text : List Char) (remaining : Nat) : Place :=
  Place.after (text.take (text.length - remaining))

end ContentBlocker.Text
