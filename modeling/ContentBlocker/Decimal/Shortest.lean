import ContentBlocker.Decimal.Binary64

/-!
# Shortest decimals

The fewest decimal digits that identify a number.  A decimal identifies the number `m * 2 ^ q` if it
lies among the reals that round to it: between the midpoints to its two neighbours, ends included
exactly when `m` is even.  For 1, 2, … digits the two decimals around the number are tested; the
first length with a hit wins, and of two hits the nearer, the even one on a tie.
-/

namespace ContentBlocker

/-- The decimal number `digits * 10 ^ exponent`. -/
structure Decimal where
  digits : Nat
  exponent : Int
deriving DecidableEq, Repr

namespace Decimal

/-- Comparison of `a * 10 ^ i` with `b * 2 ^ j`. -/
def compareBinary (a : Nat) (i : Int) (b : Nat) (j : Int) : Ordering :=
  compare (a * Nat.pow 10 i.toNat * Nat.pow 2 (-j).toNat)
    (b * Nat.pow 2 j.toNat * Nat.pow 10 (-i).toNat)

/-- Whether the gap below `m * 2 ^ q` is half the gap above it. -/
def narrowBelow (m : Nat) (q : Int) : Bool := m = Nat.pow 2 52 && -1074 < q

/-- Whether a decimal lies among the reals that round to `m * 2 ^ q`. -/
def identifies (d : Decimal) (m : Nat) (q : Int) : Bool :=
  let low := compareBinary d.digits d.exponent
    (if narrowBelow m q then 4 * m - 1 else 4 * m - 2) (q - 2)
  let high := compareBinary d.digits d.exponent (4 * m + 2) (q - 2)
  let even := m % 2 = 0
  (low = .gt || (even && low = .eq)) && (high = .lt || (even && high = .eq))

/-- The least `k` with `m * 2 ^ q < 10 ^ k`, from an estimate that is at most two too small. -/
def scale (m : Nat) (q : Int) : Int :=
  let estimate := ((m.log2 + q : Int) * 30103) / 100000
  let candidates := [estimate, estimate + 1, estimate + 2, estimate + 3]
  (candidates.find? (compareBinary 1 · m q = .gt)).getD (estimate + 4)

/-- The decimal of the two around `m * 2 ^ q` on the grid `10 ^ exponent` that identifies it. -/
def onGrid? (m : Nat) (q exponent : Int) : Option Decimal :=
  let below := m * Nat.pow 2 q.toNat * Nat.pow 10 (-exponent).toNat /
    (Nat.pow 2 (-q).toNat * Nat.pow 10 exponent.toNat)
  let low : Decimal := ⟨below, exponent⟩
  let high : Decimal := ⟨below + 1, exponent⟩
  match low.identifies m q, high.identifies m q with
  | true, false => some low
  | false, true => some high
  | false, false => none
  | true, true =>
    match compareBinary (2 * below + 1) exponent m (q + 1) with
    | .gt => some low
    | .lt => some high
    | .eq => some (if below % 2 = 0 then low else high)

/-- The decimal without trailing zeros among its first `fuel` last digits. -/
def strip : Nat → Decimal → Decimal
  | 0, d => d
  | fuel + 1, d =>
    if d.digits % 10 = 0 && d.digits ≠ 0 then strip fuel ⟨d.digits / 10, d.exponent + 1⟩ else d

/-- The exact decimal value of `m * 2 ^ q`. -/
def exact (m : Nat) (q : Int) : Decimal :=
  if 0 ≤ q then ⟨m * Nat.pow 2 q.toNat, 0⟩ else ⟨m * Nat.pow 5 (-q).toNat, q⟩

/-- The shortest decimal that identifies `m * 2 ^ q`, for positive `m`. -/
def shortest (m : Nat) (q : Int) : Decimal :=
  let k := scale m q
  let found := (List.range 17).findSome? fun i => onGrid? m q (k - (i + 1 : Nat))
  strip 400 (found.getD (exact m q))

end Decimal

namespace Binary64

/-! ## Layout

Numbers from `10 ^ -4` up to `10 ^ 16` are written positionally and always with a point; others with
one digit before the point and a signed exponent of at least two digits.
-/

/-- The exponent of ten with its sign, at least two digits wide. -/
def exponentText (e : Int) : String :=
  (if e < 0 then "-" else "+") ++ (if e.natAbs < 10 then "0" else "") ++ toString e.natAbs

/-- The text of a positive decimal without trailing zeros. -/
def layout (d : Decimal) : String :=
  let ds := (toString d.digits).toList
  let e : Int := (ds.length : Int) - 1 + d.exponent
  if -4 ≤ e && e < 16 then
    if e < 0 then String.ofList ('0' :: '.' :: List.replicate (-e - 1).toNat '0' ++ ds)
    else
      let whole := ds.take (e + 1).toNat ++ List.replicate (e + 1 - ds.length).toNat '0'
      let part := ds.drop (e + 1).toNat
      String.ofList (whole ++ '.' :: (if part.isEmpty then ['0'] else part))
  else
    match ds with
    | [c] => c.toString ++ "e" ++ exponentText e
    | c :: cs => String.ofList (c :: '.' :: cs) ++ "e" ++ exponentText e
    | [] => ""

/-- The shortest text that reads back as the number. -/
def text : Binary64 → String
  | nan => "nan"
  | infinite negative => if negative then "-inf" else "inf"
  | finite negative m q =>
    (if negative then "-" else "") ++ if m = 0 then "0.0" else layout (Decimal.shortest m q)

end Binary64

end ContentBlocker
