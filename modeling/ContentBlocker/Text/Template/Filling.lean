import ContentBlocker.Json.Number
import ContentBlocker.Text.Template

/-!
# Filling templates

A template is filled with values in the order of its places.  Filling fails unless every place takes
a value of its kind and no value is left over.
-/

namespace ContentBlocker.Text.Template

/-! ## Widths -/

/-- Widths and precisions from here on are refused. -/
def measureBound : Nat := Nat.pow 2 31

/-- The number of a measure and the values that are left. -/
def Measure.take? (m : Measure) (values : List Json) : Option (Int × List Json) := do
  let (n, values) ← match m, values with
    | written n, values => some ((n : Int), values)
    | taken, v :: values => v.integer?.map (·, values)
    | taken, [] => none
  if n.natAbs < measureBound then some (n, values) else none

/-- A measure that may be left out. -/
def takeMeasure? (m : Option Measure) (values : List Json) : Option (Option Int × List Json) :=
  match m with
  | none => some (none, values)
  | some m => (m.take? values).map fun (n, values) => (some n, values)

/-! ## Values -/

/-- A value's text before it is filled up: a sign, the mark of a base, and the rest. -/
structure Body where
  sign : Text := []
  mark : Text := []
  text : Text
  /-- zeros may stand before the rest -/
  isNumber : Bool

/-- A text in ASCII, where other characters are written by their numbers. -/
def asciiText (s : Text) : Text :=
  s.flatMap fun p =>
    if p.toNat < 0x80 then [p]
    else if p.toNat < 0x100 then ofChars ('\\' :: 'x' :: hex 2 p.toNat)
    else if p.toNat < 0x10000 then ofChars ('\\' :: 'u' :: hex 4 p.toNat)
    else ofChars ('\\' :: 'U' :: hex 8 p.toNat)

/-- A text of which the precision is the greatest length. -/
def plainBody (precision : Option Nat) (s : Text) : Body :=
  { text := (precision.map s.take).getD s, isNumber := false }

/-- The code point of a character or a number. -/
def codePoint? : Json → Option CodePoint
  | .str [p] => some p
  | v => v.integer?.bind fun n =>
    if h : 0 ≤ n ∧ n.toNat < 0x110000 then some ⟨n.toNat, h.2⟩ else none

/-- The sign of a number. -/
def signText (flags : Flags) (negative : Bool) : Text :=
  if negative then "-" else if flags.sign then "+" else if flags.blank then " " else []

/-- Letters as they are asked for. -/
def Letters.apply : Letters → List Char → List Char
  | small, s => s
  | capital, s => s.map Char.toUpper

/-- A whole number in a base, with at least as many digits as the precision says. -/
def wholeBody (flags : Flags) (precision : Option Nat) (base : Nat) (mark : List Char)
    (letters : Letters) (n : Int) : Body :=
  let ds := Nat.toDigits base n.natAbs
  let zeros := List.replicate (precision.getD 0 - ds.length) '0'
  { sign := signText flags (n < 0)
    mark := if flags.alternate then ofChars (letters.apply mark) else []
    text := ofChars (letters.apply (zeros ++ ds))
    isNumber := true }

/-- A floating-point number of which `layout` gives the digits. -/
def floatBody (flags : Flags) (letters : Letters) (layout : Nat → Int → List Char) :
    Binary64 → Body
  | .finite negative m q =>
    { sign := signText flags negative, text := ofChars (letters.apply (layout m q)),
      isNumber := true }
  | .infinite negative =>
    { sign := signText flags negative, text := ofChars (letters.apply ['i', 'n', 'f']),
      isNumber := true }
  | .nan =>
    { sign := signText flags false, text := ofChars (letters.apply ['n', 'a', 'n']),
      isNumber := true }

/-- The number of places where none is given. -/
def standardPrecision : Nat := 6

/-- A value in a form. -/
def Form.body? (form : Form) (flags : Flags) (precision : Option Nat) (v : Json) : Option Body :=
  let places := precision.getD standardPrecision
  let keeps := flags.alternate
  match form with
  | shown => some (plainBody precision v.shown)
  | quoted => some (plainBody precision v.described)
  | ascii => some (plainBody precision (asciiText v.described))
  | character => (codePoint? v).map fun p => plainBody none [p]
  | whole => v.truncated?.map (wholeBody { flags with alternate := false } precision 10 [] .small)
  | octal => v.integer?.map (wholeBody flags precision 8 ['0', 'o'] .small)
  | hexadecimal letters =>
    v.integer?.map (wholeBody flags precision 16 ['0', 'x'] letters)
  | fixed letters =>
    v.real?.map (floatBody flags letters (Binary64.fixedText keeps places))
  | scientific letters =>
    v.real?.map (floatBody flags letters (Binary64.scientificText keeps places))
  | general letters =>
    v.real?.map (floatBody flags letters (Binary64.generalText keeps (max 1 places)))

/-- A body filled up to a width. -/
def Body.fill (b : Body) (left zeros : Bool) (width : Nat) : Text :=
  let missing := width - (b.sign.length + b.mark.length + b.text.length)
  let padding (c : Char) : Text := List.replicate missing c
  if left then b.sign ++ b.mark ++ b.text ++ padding ' '
  else if zeros && b.isNumber then b.sign ++ b.mark ++ padding '0' ++ b.text
  else padding ' ' ++ b.sign ++ b.mark ++ b.text

/-! ## Templates -/

/-- The text of a place and the values that are left.  A negative width asks for blanks behind the
value, and a negative precision counts as zero. -/
def Place.fill? (place : Place) (values : List Json) : Option (Text × List Json) := do
  let (width, values) ← takeMeasure? place.width values
  let (precision, values) ← takeMeasure? place.precision values
  match values with
  | [] => none
  | v :: values =>
    let width := width.getD 0
    let body ← place.form.body? place.flags (precision.map Int.toNat) v
    some (body.fill (place.flags.left || width < 0) place.flags.zeros width.natAbs, values)

/-- The text of pieces with values in their places. -/
def fillPieces? : List Piece → List Json → Option Text
  | [], [] => some []
  | [], _ :: _ => none
  | .literal p :: rest, values => (fillPieces? rest values).map (p :: ·)
  | .place place :: rest, values => do
    let (text, values) ← place.fill? values
    (fillPieces? rest values).map (text ++ ·)

/-- A template with values in its places. -/
def fill? (template : Text) (values : List Json) : Option Text :=
  (pieces? template).bind (fillPieces? · values)

end ContentBlocker.Text.Template
