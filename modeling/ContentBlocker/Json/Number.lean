import ContentBlocker.Decimal.Rounded
import ContentBlocker.Json.Basic

/-!
# Values as numbers

Where any number will do, `true` and `false` count as one and zero.
-/

namespace ContentBlocker.Json

/-- The whole number that a value is. -/
def integer? : Json → Option Int
  | int n => some n
  | bool b => some (if b then 1 else 0)
  | _ => none

/-- The whole number that a value equals. -/
def whole? : Json → Option Int
  | float x => x.whole?
  | v => integer? v

/-- The whole number that a value is without its fraction. -/
def truncated? : Json → Option Int
  | float x => x.truncate?
  | v => integer? v

/-- The floating-point number that a value is, or that is nearest to it. -/
def real? : Json → Option Binary64
  | float x => some x
  | v => (integer? v).bind Binary64.ofInt?

end ContentBlocker.Json
