import ContentBlocker.Text.Blank

/-!
# Text on one line

`singleLine` makes a text fit for one line: control characters count as blanks, blanks at the ends
are removed and those between words become one space.  A limit cuts what is longer and puts three
dots behind it.
-/

namespace ContentBlocker.Text

/-- Control characters that are not blanks already count as blanks. -/
def isControl (p : CodePoint) : Bool := p.toNat < 32 || p.toNat = 127

/-- A code point as it stands on a line. -/
def onLine (p : CodePoint) : CodePoint := if isBlank p || isControl p then ' ' else p

/-- Every run of spaces as one space. -/
def collapse : Text → Text
  | p :: q :: rest =>
    if p = ' ' ∧ q = ' ' then collapse (q :: rest) else p :: collapse (q :: rest)
  | s => s

/-- The words of a text with one space between them. -/
def words (s : Text) : Text := trim (collapse (s.map onLine))

/-- The first `n` code points; a negative `n` leaves that many off the end. -/
def takeSigned (n : Int) (s : Text) : Text :=
  if 0 ≤ n then s.take n.toNat else s.take (s.length - n.natAbs)

/-- A text of at most `limit` code points as it is, a longer one cut with three dots behind it.  The
limit zero cuts nothing. -/
def cut (limit : Int) (s : Text) : Text :=
  if limit ≠ 0 ∧ limit < s.length then trimEnd (takeSigned (limit - 3) s) ++ "..." else s

def singleLine (limit : Int) (s : Text) : Text := cut limit (words s)

end ContentBlocker.Text
