import ContentBlocker.Json.Basic

/-!
# Writing JSON

Two layouts, both in ASCII: characters beyond it are written as `\u` escapes of their 16-bit units.
`pretty` gives every element and field a line of its own, indents by two and sorts the fields of
objects by their keys, so that equal documents have equal texts.  `inline` keeps everything on one
line in the order of the fields.
-/

namespace ContentBlocker.Json

/-! ## Scalars -/

/-- A 16-bit unit as an escape. -/
def unitEscape (n : Nat) : List Char := '\\' :: 'u' :: Text.hex 4 n

/-- A code point of a string. -/
def escapedOne (p : CodePoint) : List Char :=
  if p = '"' then ['\\', '"']
  else if p = '\\' then ['\\', '\\']
  else if p = '\n' then ['\\', 'n']
  else if p = '\r' then ['\\', 'r']
  else if p = '\t' then ['\\', 't']
  else if p = '\x0c' then ['\\', 'f']
  else if p = '\x08' then ['\\', 'b']
  else if 32 ≤ p.toNat ∧ p.toNat < 127 then [p.char]
  else if p.toNat < 0x10000 then unitEscape p.toNat
  else
    let n := p.toNat - 0x10000
    unitEscape (0xD800 + n / 0x400) ++ unitEscape (0xDC00 + n % 0x400)

def stringText (s : Text) : List Char := '"' :: s.flatMap escapedOne ++ ['"']

def floatText : Binary64 → String
  | .nan => "NaN"
  | .infinite negative => if negative then "-Infinity" else "Infinity"
  | x => x.text

/-! ## One line -/

/-- Texts with a separator between them. -/
def separated (separator : List Char) (texts : List (List Char)) : List Char :=
  (texts.intersperse separator).flatten

mutual

/-- A value on one line; `comma` and `colon` are the separators. -/
def inlineChars (comma colon : List Char) : Json → List Char
  | null => ['n', 'u', 'l', 'l']
  | bool true => ['t', 'r', 'u', 'e']
  | bool false => ['f', 'a', 'l', 's', 'e']
  | int n => (toString n).toList
  | float x => (floatText x).toList
  | str s => stringText s
  | arr items => '[' :: separated comma (inlineItems comma colon items) ++ [']']
  | obj fields => '\x7b' :: separated comma (inlineFields comma colon fields) ++ ['\x7d']

def inlineItems (comma colon : List Char) : List Json → List (List Char)
  | [] => []
  | v :: rest => inlineChars comma colon v :: inlineItems comma colon rest

def inlineFields (comma colon : List Char) : List (Text × Json) → List (List Char)
  | [] => []
  | (k, v) :: rest =>
    (stringText k ++ colon ++ inlineChars comma colon v) :: inlineFields comma colon rest

end

/-- A value on one line with a blank behind every separator. -/
def inline (v : Json) : String := String.ofList (inlineChars [',', ' '] [':', ' '] v)

/-- A value on one line without blanks. -/
def compact (v : Json) : String := String.ofList (inlineChars [','] [':'] v)

/-! ## Many lines -/

/-- A line break and the indentation of a level. -/
def newLine (level : Nat) : List Char := '\n' :: List.replicate (2 * level) ' '

/-- Texts between brackets, each on a line of its own; brackets that hold nothing stay together. -/
def block (level : Nat) (opening closing : Char) (texts : List (List Char)) : List Char :=
  if texts.isEmpty then [opening, closing]
  else
    opening :: newLine (level + 1) ++ separated (',' :: newLine (level + 1)) texts ++
      newLine level ++ [closing]

/-- Fields in the order of their keys. -/
def sortFields {α : Type} (fields : List (Text × α)) : List (Text × α) :=
  fields.mergeSort fun a b => a.1.notAfter b.1

mutual

def prettyChars (level : Nat) : Json → List Char
  | null => ['n', 'u', 'l', 'l']
  | bool true => ['t', 'r', 'u', 'e']
  | bool false => ['f', 'a', 'l', 's', 'e']
  | int n => (toString n).toList
  | float x => (floatText x).toList
  | str s => stringText s
  | arr items => block level '[' ']' (prettyItems (level + 1) items)
  | obj fields =>
    block level '\x7b' '\x7d'
      ((sortFields (prettyFields (level + 1) fields)).map fun (k, t) =>
        stringText k ++ [':', ' '] ++ t)

def prettyItems (level : Nat) : List Json → List (List Char)
  | [] => []
  | v :: rest => prettyChars level v :: prettyItems level rest

def prettyFields (level : Nat) : List (Text × Json) → List (Text × List Char)
  | [] => []
  | (k, v) :: rest => (k, prettyChars level v) :: prettyFields level rest

end

/-- A value in many lines with sorted fields: equal values have equal texts. -/
def pretty (v : Json) : String := String.ofList (prettyChars 0 v)

end ContentBlocker.Json
