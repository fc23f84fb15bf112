import ContentBlocker.Text.Blank
import ContentBlocker.Text.DecimalDigit

/-!
# Whole numbers in decimal notation

A numeral may be surrounded by blanks and may have a sign.  Its digits are decimal digits of any
script, and a single underscore may stand between two digits.  Numerals of more than 4300 digits are
refused.
-/

namespace ContentBlocker.Numeral

/-- The most digits of a numeral. -/
def digitBound : Nat := 4300

/-- The values of the digits of a text in which single underscores may stand between digits. -/
def digits? : Text → Option (List Nat)
  | [] => none
  | [p] => (Text.digitValue? p).map ([·])
  | p :: q :: rest => do
    let d ← Text.digitValue? p
    let ds ← if q = '_' then digits? rest else digits? (q :: rest)
    pure (d :: ds)

/-- The number that a list of digits writes. -/
def value (digits : List Nat) : Nat := digits.foldl (fun n d => n * 10 + d) 0

/-- The number of an unsigned numeral. -/
def natural? (s : Text) : Option Nat :=
  match digits? s with
  | some ds => if ds.length ≤ digitBound then some (value ds) else none
  | none => none

/-- The number of a numeral without blanks around it. -/
def signed? : Text → Option Int
  | [] => none
  | p :: rest =>
    if p = '-' then (natural? rest).map fun n => -(n : Int)
    else if p = '+' then (natural? rest).map fun n => (n : Int)
    else (natural? (p :: rest)).map fun n => (n : Int)

/-- The number that a text writes. -/
def read? (s : Text) : Option Int := signed? (Text.trim s)

end ContentBlocker.Numeral
