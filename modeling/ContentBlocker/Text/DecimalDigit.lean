import ContentBlocker.Text.Basic

/-!
# Decimal digits of all scripts

Every script with decimal digits has ten of them in a row; the table holds the zeros of Unicode 14.
-/

namespace ContentBlocker.Text

/-- The code points of the digits zero. -/
def digitZeros : List Nat :=
  [
    48, 1632, 1776, 1984, 2406, 2534, 2662, 2790, 2918, 3046, 3174, 3302, 3430, 3558, 3664, 3792,
    3872, 4160, 4240, 6112, 6160, 6470, 6608, 6784, 6800, 6992, 7088, 7232, 7248, 42528, 43216,
    43264, 43472, 43504, 43600, 44016, 65296, 66720, 68912, 69734, 69872, 69942, 70096, 70384,
    70736, 70864, 71248, 71360, 71472, 71904, 72016, 72784, 73040, 73120, 92768, 92864, 93008,
    120782, 120792, 120802, 120812, 120822, 123200, 123632, 125264, 130032]

/-- The value of a decimal digit of any script. -/
def digitValue? (p : CodePoint) : Option Nat :=
  (digitZeros.find? fun z => z ≤ p.toNat && p.toNat < z + 10).map (p.toNat - ·)

end ContentBlocker.Text
