/-!
# Texts

A text is a row of code points.  A document can name either half of a surrogate pair alone, so not
every code point of a text is a character.  The texts of characters alone are the strings:
`ofString` makes a text of a string, and `string?` gives it back.
-/

namespace ContentBlocker

/-- A code point, which may be half of a surrogate pair. -/
structure CodePoint where
  toNat : Nat
  toNat_lt : toNat < 0x110000
deriving DecidableEq

namespace CodePoint

instance : Repr CodePoint := ⟨fun p prec => reprPrec p.toNat prec⟩

/-- The replacement character. -/
def replacement : CodePoint := ⟨0xFFFD, by decide⟩

instance : Inhabited CodePoint := ⟨replacement⟩

/-- The code point with a number; numbers that are none give the replacement character. -/
def ofNat (n : Nat) : CodePoint := if h : n < 0x110000 then ⟨n, h⟩ else replacement

theorem char_lt (c : Char) : c.toNat < 0x110000 := by
  have h : c.toNat < 0xD800 ∨ 0xDFFF < c.toNat ∧ c.toNat < 0x110000 := c.valid
  omega

def ofChar (c : Char) : CodePoint := ⟨c.toNat, char_lt c⟩

instance : Coe Char CodePoint := ⟨ofChar⟩

/-- The character that a code point is, if it is one. -/
def char? (p : CodePoint) : Option Char :=
  if p.toNat.isValidChar then some (Char.ofNat p.toNat) else none

/-- The character that a code point is, or the replacement character. -/
def char (p : CodePoint) : Char := p.char?.getD '\ufffd'

theorem char?_ofChar (c : Char) : (ofChar c).char? = some c := by
  have h : c.toNat.isValidChar := c.valid
  simp [char?, ofChar, h, Char.ofNat_toNat]

end CodePoint

abbrev Text := List CodePoint

namespace Text

def ofChars (s : List Char) : Text := s.map CodePoint.ofChar

def ofString (s : String) : Text := ofChars s.toList

instance : Coe String Text := ⟨ofString⟩

/-- The characters of a text without surrogates. -/
def chars? (s : Text) : Option (List Char) := s.mapM CodePoint.char?

/-- The string that a text without surrogates is. -/
def string? (s : Text) : Option String := s.chars?.map String.ofList

/-- A text as a string, with replacement characters for its surrogates. -/
def lossy (s : Text) : String := String.ofList (s.map CodePoint.char)

/-- What stands behind `stem` at the start of a text. -/
def behind? : Text → Text → Option Text
  | [], s => some s
  | _ :: _, [] => none
  | p :: stem, q :: s => if p = q then behind? stem s else none

/-- Whether a text stands before another, or at its place, where code points are compared from left
to right. -/
def notAfter : Text → Text → Bool
  | [], _ => true
  | _ :: _, [] => false
  | p :: s, q :: t => p.toNat < q.toNat || (p = q && notAfter s t)

/-! ## Strings -/

theorem chars?_ofChars (s : List Char) : (ofChars s).chars? = some s := by
  induction s with
  | nil => rfl
  | cons c s ih =>
    have h : (ofChars s).mapM CodePoint.char? = some s := ih
    simp [chars?, ofChars, CodePoint.char?_ofChar, List.mapM_cons] at h ⊢
    simp [h]

theorem string?_ofString (s : String) : (ofString s).string? = some s := by
  simp [string?, ofString, chars?_ofChars]

theorem ofString_inj {s t : String} : ofString s = ofString t ↔ s = t := by
  constructor
  · intro h
    have := congrArg string? h
    simpa only [string?_ofString, Option.some.injEq] using this
  · exact congrArg ofString

end Text

end ContentBlocker
