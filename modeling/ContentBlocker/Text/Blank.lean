import ContentBlocker.Text.Basic
import ContentBlocker.Text.Ranges

/-!
# White space

The blank characters are the 25 of the Unicode property White_Space and the four information
separators U+001C to U+001F.  Trimming removes them at both ends of a text.
-/

namespace ContentBlocker.Text

/-- The code points of the blank characters. -/
def blanks : Ranges :=
  [(9, 13), (28, 32), (133, 133), (160, 160), (5760, 5760), (8192, 8202), (8232, 8233),
    (8239, 8239), (8287, 8287), (12288, 12288)]

def isBlank (p : CodePoint) : Bool := blanks.has p.toNat

/-! ## Trimming -/

def trimStart (s : Text) : Text := s.dropWhile isBlank

def trimEnd (s : Text) : Text := (s.reverse.dropWhile isBlank).reverse

/-- The text without the blanks at its two ends. -/
def trim (s : Text) : Text := trimEnd (trimStart s)

/-- Whether a text has no character other than blanks. -/
def isAllBlank (s : Text) : Bool := s.all isBlank

end ContentBlocker.Text
