import ContentBlocker.Text.Basic

/-!
# Message templates

A template is a text with places for values.  A place begins with a percent sign and ends with a
letter that says how the value is shown; between them may stand flags, a width and a precision.  Two
percent signs stand for one.  `pieces?` takes a template apart.
-/

namespace ContentBlocker.Text.Template

/-! ## Pieces -/

/-- Whether numbers are written with small letters or with capitals. -/
inductive Letters where
  | small
  | capital
deriving DecidableEq, Repr

/-- How a value is shown. -/
inductive Form where
  /-- as it is shown in messages -/
  | shown
  /-- with quotes around texts -/
  | quoted
  /-- with quotes, in ASCII -/
  | ascii
  /-- as one character -/
  | character
  /-- as a whole number -/
  | whole
  | octal
  | hexadecimal (letters : Letters)
  /-- with a number of places -/
  | fixed (letters : Letters)
  /-- with an exponent -/
  | scientific (letters : Letters)
  /-- with a number of digits -/
  | general (letters : Letters)
deriving DecidableEq, Repr

/-- The form that a letter stands for. -/
def Form.ofLetter? : Char → Option Form
  | 's' => some shown
  | 'r' => some quoted
  | 'a' => some ascii
  | 'c' => some character
  | 'd' | 'i' | 'u' => some whole
  | 'o' => some octal
  | 'x' => some (hexadecimal .small)
  | 'X' => some (hexadecimal .capital)
  | 'f' => some (fixed .small)
  | 'F' => some (fixed .capital)
  | 'e' => some (scientific .small)
  | 'E' => some (scientific .capital)
  | 'g' => some (general .small)
  | 'G' => some (general .capital)
  | _ => none

/-- A number in a place: written there, or the next value. -/
inductive Measure where
  | written (n : Nat)
  | taken
deriving DecidableEq, Repr

structure Flags where
  /-- blanks that fill the width stand behind the value -/
  left : Bool := false
  /-- numbers always have a sign -/
  sign : Bool := false
  /-- numbers without a sign have a blank in its place -/
  blank : Bool := false
  /-- marks of the base and points are kept -/
  alternate : Bool := false
  /-- zeros fill the width of numbers -/
  zeros : Bool := false
deriving DecidableEq, Repr

structure Place where
  flags : Flags
  width : Option Measure
  precision : Option Measure
  form : Form
deriving DecidableEq, Repr

inductive Piece where
  | literal (p : CodePoint)
  | place (p : Place)
deriving DecidableEq, Repr

/-! ## Reading -/

/-- Flags with one more. -/
def Flags.with? (f : Flags) (p : CodePoint) : Option Flags :=
  if p = '-' then some { f with left := true }
  else if p = '+' then some { f with sign := true }
  else if p = ' ' then some { f with blank := true }
  else if p = '#' then some { f with alternate := true }
  else if p = '0' then some { f with zeros := true }
  else none

def takeFlags (f : Flags) : Text → Flags × Text
  | [] => (f, [])
  | p :: rest =>
    match f.with? p with
    | some g => takeFlags g rest
    | none => (f, p :: rest)

/-- The value of a digit. -/
def digit? (p : CodePoint) : Option Nat :=
  if 48 ≤ p.toNat && p.toNat < 58 then some (p.toNat - 48) else none

/-- Goes on with a number whose first digits give `n`. -/
def takeDigits (n : Nat) : Text → Nat × Text
  | [] => (n, [])
  | p :: rest =>
    match digit? p with
    | some d => takeDigits (n * 10 + d) rest
    | none => (n, p :: rest)

/-- A star or digits, if there are any. -/
def takeMeasure : Text → Option Measure × Text
  | [] => (none, [])
  | p :: rest =>
    if p = '*' then (some .taken, rest)
    else
      match digit? p with
      | some d => ((takeDigits d rest).map (some ∘ .written) id)
      | none => (none, p :: rest)

/-- A point with a precision, if there is one; a point alone stands for zero. -/
def takePrecision (s : Text) : Option Measure × Text :=
  match behind? "." s with
  | some rest => (takeMeasure rest).map (fun m => some (m.getD (.written 0))) id
  | none => (none, s)

/-- Skips one letter for the size of a number, which does not count. -/
def skipSize : Text → Text
  | [] => []
  | p :: rest => if p = 'h' ∨ p = 'l' ∨ p = 'L' then rest else p :: rest

/-- A place from behind its percent sign, and what follows it. -/
def takePlace? (s : Text) : Option (Place × Text) :=
  let (flags, s) := takeFlags {} s
  let (width, s) := takeMeasure s
  let (precision, s) := takePrecision s
  match skipSize s with
  | [] => none
  | p :: rest =>
    (p.char?.bind Form.ofLetter?).map fun form => (⟨flags, width, precision, form⟩, rest)

/-- The pieces of a template of fewer than `fuel` code points. -/
def piecesWithin? : Nat → Text → Option (List Piece)
  | 0, _ => none
  | _ + 1, [] => some []
  | fuel + 1, p :: rest =>
    if p ≠ '%' then (piecesWithin? fuel rest).map (.literal p :: ·)
    else
      match behind? "%" rest with
      | some rest => (piecesWithin? fuel rest).map (.literal '%' :: ·)
      | none =>
        match takePlace? rest with
        | none => none
        | some (place, rest) => (piecesWithin? fuel rest).map (.place place :: ·)

/-- The pieces of a template, if every place in it is complete. -/
def pieces? (s : Text) : Option (List Piece) := piecesWithin? (s.length + 1) s

end ContentBlocker.Text.Template
