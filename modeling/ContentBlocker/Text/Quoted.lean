import ContentBlocker.Text.Hexadecimal
import ContentBlocker.Text.Printable

/-!
# Quoted text

A text in a message is quoted so that it stays on one line and shows every character that cannot
be seen.  Quotes are single unless the text has a single quote and no double quote.
-/

namespace ContentBlocker.Text

/-- A code point inside quotes: the quote, the backslash and the common controls get a backslash,
others that cannot be printed are written by their number. -/
def quotedOne (quote : Char) (p : CodePoint) : List Char :=
  if p = quote ∨ p = '\\' then ['\\', p.char]
  else if p = '\t' then ['\\', 't']
  else if p = '\n' then ['\\', 'n']
  else if p = '\r' then ['\\', 'r']
  else if isPrintable p then [p.char]
  else if p.toNat < 0x100 then '\\' :: 'x' :: hex 2 p.toNat
  else if p.toNat < 0x10000 then '\\' :: 'u' :: hex 4 p.toNat
  else '\\' :: 'U' :: hex 8 p.toNat

/-- The quote that surrounds a text. -/
def quoteMark (s : Text) : Char :=
  if s.contains '\'' && !s.contains '"' then '"' else '\''

def quotedList (s : Text) : List Char :=
  quoteMark s :: s.flatMap (quotedOne (quoteMark s)) ++ [quoteMark s]

def quoted (s : Text) : String := String.ofList (quotedList s)

end ContentBlocker.Text
