/-!
# Floating-point numbers of 64 bits

A finite number is `m * 2 ^ q` with `m < 2 ^ 53` and `-1074 ≤ q ≤ 971`, where `2 ^ 52 ≤ m` unless
`q = -1074`, so that every number but zero is written in one way.  `ofDecimal` rounds a decimal
number to the nearest of them, a half going to the even neighbour.
-/

namespace ContentBlocker

inductive Binary64 where
  | finite (negative : Bool) (m : Nat) (q : Int)
  | infinite (negative : Bool)
  | nan
deriving DecidableEq, Repr, Inhabited

namespace Binary64

def zero (negative : Bool) : Binary64 := finite negative 0 (-1074)

def isZero : Binary64 → Bool
  | finite _ m _ => m = 0
  | _ => false

/-- The whole number nearest to `num / den`, a half going to the even neighbour. -/
def roundQuotient (num den : Nat) : Nat :=
  let q := num / den
  let r := num % den
  if 2 * r < den then q
  else if den < 2 * r then q + 1
  else if q % 2 = 0 then q else q + 1

/-- The greatest `e` with `2 ^ e ≤ num / den`, for positive numbers. -/
def binaryExponent (num den : Nat) : Int :=
  let e : Int := (num.log2 : Int) - den.log2
  if den * Nat.pow 2 e.toNat ≤ num * Nat.pow 2 (-e).toNat then e else e - 1

/-- The number nearest to the positive fraction `num / den`. -/
def ofFraction (negative : Bool) (num den : Nat) : Binary64 :=
  let q := max (binaryExponent num den - 52) (-1074)
  let m := roundQuotient (num * Nat.pow 2 (-q).toNat) (den * Nat.pow 2 q.toNat)
  let (m, q) := if m = Nat.pow 2 53 then (Nat.pow 2 52, q + 1) else (m, q)
  if 971 < q then infinite negative else finite negative m q

/-- The number nearest to `digits * 10 ^ exponent`.  Exponents far outside the range of the type
are answered before any power is computed. -/
def ofDecimal (negative : Bool) (digits : Nat) (exponent : Int) : Binary64 :=
  if digits = 0 then zero negative
  else if 400 < exponent then infinite negative
  else if exponent < -(400 + (digits.log2 : Int)) then zero negative
  else ofFraction negative (digits * Nat.pow 10 exponent.toNat) (Nat.pow 10 (-exponent).toNat)

/-- The number without its fraction. -/
def truncate? : Binary64 → Option Int
  | finite negative m q =>
    let n : Int := (m * Nat.pow 2 q.toNat / Nat.pow 2 (-q).toNat : Nat)
    some (if negative then -n else n)
  | _ => none

/-- The number, if it is a whole number. -/
def whole? : Binary64 → Option Int
  | finite negative m q =>
    if m % Nat.pow 2 (-q).toNat = 0 then truncate? (finite negative m q) else none
  | _ => none

/-- Whether a number is greater than a whole number. -/
def exceeds (x : Binary64) (n : Int) : Bool :=
  match x with
  | finite negative m q =>
    let m : Int := if negative then -m else m
    n * (Nat.pow 2 (-q).toNat : Nat) < m * (Nat.pow 2 q.toNat : Nat)
  | infinite negative => !negative
  | nan => false

end Binary64

end ContentBlocker
