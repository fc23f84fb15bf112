/-!
# Hexadecimal digits
-/

namespace ContentBlocker.Text

/-- Lower-case hexadecimal digits of `n`, exactly `width` of them. -/
def hex (width n : Nat) : List Char :=
  (List.range width).reverse.map fun i => Nat.digitChar (n / Nat.pow 16 i % 16)

/-- The value of a digit in either case. -/
def hexValue? (c : Char) : Option Nat :=
  if '0' ≤ c && c ≤ '9' then some (c.toNat - 48)
  else if 'a' ≤ c && c ≤ 'f' then some (c.toNat - 87)
  else if 'A' ≤ c && c ≤ 'F' then some (c.toNat - 55)
  else none

/-- The number that digits stand for, the highest first. -/
def hexNumber? (s : List Char) : Option Nat :=
  s.foldlM (fun n c => (hexValue? c).map (n * 16 + ·)) 0

end ContentBlocker.Text
