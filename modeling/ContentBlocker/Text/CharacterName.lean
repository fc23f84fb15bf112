import ContentBlocker.Text.CharacterName.Aliases
import ContentBlocker.Text.CharacterName.Alphabets
import ContentBlocker.Text.CharacterName.EastAsia
import ContentBlocker.Text.CharacterName.Hangul
import ContentBlocker.Text.CharacterName.HistoricScripts
import ContentBlocker.Text.CharacterName.Pictographs
import ContentBlocker.Text.CharacterName.Signs
import ContentBlocker.Text.Hexadecimal
import ContentBlocker.Text.Ranges

/-!
# Character names

Looks characters up by their names in Unicode 14 and by their aliases.  Most names are in tables
and are found in either case.  The names of some characters end in their code points, and the
Hangul syllables are named for their sounds.
-/

namespace ContentBlocker.Text

namespace CharacterName

/-! ## Tables -/

def tables : List String := [alphabets, signs, eastAsia, historicScripts, pictographs, aliases]

/-- The code point of a name in a line of a table: the code point of the first character of the
line, the start of its names and the rest of each name behind a bar. -/
def inLine? (name line : List Char) : Option Nat := do
  let (code, names) := line.span (· ≠ ' ')
  let (start, rests) := (names.drop 1).span (· ≠ '|')
  let rest ← start.isPrefixOf? name
  let place ← ((rests.drop 1).splitOn '|').idxOf? rest
  let first ← hexNumber? code
  return first + place

def inTables? (name : List Char) : Option Nat :=
  tables.findSome? fun table => (table.toList.splitOn '\n').findSome? (inLine? name)

/-! ## Names that end in a code point -/

/-- The characters whose names are a start with their code points behind it. -/
def numbered : List (String × Ranges) :=
  [("CJK COMPATIBILITY IDEOGRAPH-", [(0xF900, 0xFA6D), (0xFA70, 0xFAD9), (0x2F800, 0x2FA1D)]),
    ("KHITAN SMALL SCRIPT CHARACTER-", [(0x18B00, 0x18CD5)]),
    ("NUSHU CHARACTER-", [(0x1B170, 0x1B2FB)])]

def unifiedIdeographs : Ranges :=
  [(0x3400, 0x4DBF), (0x4E00, 0x9FFF), (0x20000, 0x2A6DF), (0x2A700, 0x2B738), (0x2B740, 0x2B81D),
    (0x2B820, 0x2CEA1), (0x2CEB0, 0x2EBE0), (0x30000, 0x3134A)]

/-- The code point in a range that digits stand for without a zero in front. -/
def codeIn? (range : Ranges) (digits : List Char) : Option Nat :=
  if digits.head? = some '0' then none else (hexNumber? digits).filter range.has

def numbered? (name : List Char) : Option Nat :=
  numbered.findSome? fun (start, range) =>
    (start.toList.isPrefixOf? name).bind (codeIn? range)

/-- The unified ideograph that four or five digits stand for; no digit may be in lower case. -/
def ideograph? (digits : List Char) : Option Nat :=
  if (digits.length = 4 || digits.length = 5) && !digits.any Char.isLower then
    (hexNumber? digits).filter unifiedIdeographs.has
  else none

end CharacterName

/-! ## All names -/

open CharacterName in
/-- The code point of the character with a name. -/
def characterNamed? (name : List Char) : Option Nat :=
  match "HANGUL SYLLABLE ".toList.isPrefixOf? name,
    "CJK UNIFIED IDEOGRAPH-".toList.isPrefixOf? name with
  | some sounds, _ => syllable? sounds
  | none, some digits => ideograph? digits
  | none, none =>
    let name := name.map Char.toUpper
    (numbered? name).orElse fun _ => inTables? name

end ContentBlocker.Text
