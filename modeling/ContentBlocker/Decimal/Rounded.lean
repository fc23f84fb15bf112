import ContentBlocker.Decimal.Shortest

/-!
# Rounded decimals

Floating-point numbers with a number of places behind the point, or with a number of significant
digits.  A number goes to the nearest decimal on the grid, a half to the even neighbour.  The three
layouts are positional, with an exponent, and the one of these two that suits the size of the
number.
-/

namespace ContentBlocker

namespace Decimal

/-- The decimal nearest to `m * 2 ^ q` among those with an exponent. -/
def nearest (m : Nat) (q exponent : Int) : Decimal :=
  let num := m * Nat.pow 2 q.toNat * Nat.pow 10 (-exponent).toNat
  let den := Nat.pow 2 (-q).toNat * Nat.pow 10 exponent.toNat
  ⟨Binary64.roundQuotient num den, exponent⟩

/-- The decimal with `count` digits that is nearest to `m * 2 ^ q`; zero has one digit and as many
places as the others. -/
def significant (m : Nat) (q : Int) (count : Nat) : Decimal :=
  if m = 0 then ⟨0, 1 - count⟩
  else
    let d := nearest m q (scale m q - count)
    if d.digits = Nat.pow 10 count then ⟨Nat.pow 10 (count - 1), d.exponent + 1⟩ else d

/-- Digits with zeros in front, at least `width` of them. -/
def digitsText (width n : Nat) : List Char :=
  let ds := (toString n).toList
  List.replicate (width - ds.length) '0' ++ ds

/-- A point and what stands behind it.  Without digits there is no point unless `keepsPoint`
holds. -/
def fractionText (keepsPoint : Bool) (places : List Char) : List Char :=
  if places.isEmpty && !keepsPoint then [] else '.' :: places

/-- Digits of which the last `places` stand behind the point. -/
def positional (keepsPoint : Bool) (places n : Nat) : List Char :=
  let ds := digitsText (places + 1) n
  ds.take (ds.length - places) ++ fractionText keepsPoint (ds.drop (ds.length - places))

/-- The places behind a point without the zeros at their end. -/
def withoutZeros (places : List Char) : List Char :=
  (places.reverse.dropWhile (· = '0')).reverse

end Decimal

namespace Binary64

open Decimal

/-- With `places` digits behind the point. -/
def fixedText (keepsPoint : Bool) (places m : Nat) (q : Int) : List Char :=
  positional keepsPoint places (nearest m q (-places)).digits

/-- With one digit before the point, `places` behind it, and an exponent. -/
def scientificText (keepsPoint : Bool) (places m : Nat) (q : Int) : List Char :=
  let d := significant m q (places + 1)
  positional keepsPoint places d.digits ++ 'e' :: (exponentText (d.exponent + places)).toList

/-- With `count` significant digits, positional from `10 ^ -4` up to `10 ^ count` and with an
exponent outside.  Zeros at the end of the places are left out, unless `keepsPoint` holds. -/
def generalText (keepsPoint : Bool) (count m : Nat) (q : Int) : List Char :=
  let d := significant m q count
  let e := d.exponent + ((count - 1 : Nat) : Int)
  let inPlaces := -4 ≤ e && e < count
  let places := if inPlaces then (count - 1 - e).toNat else count - 1
  let ds := digitsText (places + 1) d.digits
  let behind := ds.drop (ds.length - places)
  ds.take (ds.length - places) ++
    fractionText keepsPoint (if keepsPoint then behind else withoutZeros behind) ++
    if inPlaces then [] else 'e' :: (exponentText e).toList

/-- The number nearest to a whole number, unless that is out of range. -/
def ofInt? (n : Int) : Option Binary64 :=
  if n = 0 then some (zero false)
  else
    match ofFraction (n < 0) n.natAbs 1 with
    | infinite _ => none
    | x => some x

end Binary64

end ContentBlocker
