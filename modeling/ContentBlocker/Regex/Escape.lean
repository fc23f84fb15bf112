import ContentBlocker.Regex.State
import ContentBlocker.Text.CharacterName

/-!
# Escapes

What a backslash and the character behind it stand for: a character, a class of characters, a
position or an earlier group.  Inside a set only characters and classes are possible.
-/

namespace ContentBlocker.Regex

def isHex (c : Char) : Bool :=
  c.isDigit || ('a' ≤ c && c ≤ 'f') || ('A' ≤ c && c ≤ 'F')

def isOctal (c : Char) : Bool := '0' ≤ c && c ≤ '7'

def digitOf (c : Char) : Nat :=
  if c.isDigit then c.toNat - 48 else if c.isUpper then c.toNat - 55 else c.toNat - 87

/-- The number that digits write in a base. -/
def numberIn (base : Nat) (digits : List Char) : Nat :=
  digits.foldl (fun n c => n * base + digitOf c) 0

/-! ## Characters by number or name

In what follows `start` is the pattern from the backslash on. -/

/-- The greatest code point. -/
def lastCodePoint : Nat := 0x10FFFF

/-- Codes from here on are refused before they are compared with code points. -/
def codeBound : Nat := Nat.pow 2 31

/-- A character by exactly `n` hexadecimal digits. -/
def hexEscape (start : List Char) (letter : Char) (n : Nat) : Reader Nat := do
  let ds ← takeWhile isHex n
  let escape := '\\' :: letter :: ds
  if ds.length < n then failAt (.incompleteEscape escape) start
  else if codeBound ≤ numberIn 16 ds then refuse .codeTooLarge
  else if lastCodePoint < numberIn 16 ds then failAt (.badEscape escape) start
  else pure (numberIn 16 ds)

/-- A character by its name in braces. -/
def nameEscape (start : List Char) : Reader Nat := do
  if ← accept '\x7b' then
    let name ← nameUntil '\x7d' "character name"
    match Text.characterNamed? name with
    | some n => pure n
    | none => failAt (.undefinedCharacter name) start
  else fail .missingBrace

/-- A character by three octal digits. -/
def octalCode (start digits : List Char) : Reader Nat :=
  if 255 < numberIn 8 digits then failAt (.octalTooLarge ('\\' :: digits)) start
  else pure (numberIn 8 digits)

/-- The characters that letters stand for. -/
def controlCode? : Char → Option Nat
  | 'a' => some 7
  | 'b' => some 8
  | 't' => some 9
  | 'n' => some 10
  | 'v' => some 11
  | 'f' => some 12
  | 'r' => some 13
  | '\\' => some 92
  | _ => none

/-- Letters that stand for a class of characters. -/
def isCategory (c : Char) : Bool :=
  c = 'd' || c = 'D' || c = 's' || c = 'S' || c = 'w' || c = 'W'

/-- Letters that stand for a position. -/
def isPosition (c : Char) : Bool := c = 'A' || c = 'b' || c = 'B' || c = 'Z'

/-! ## Escapes in sets -/

/-- A member of a set: a character, or a class of characters. -/
inductive Member where
  | code (n : Nat)
  | category
deriving DecidableEq, Repr

/-- What an escape in a set stands for; `c` is the character behind the backslash. -/
def setEscape (start : List Char) (c : Char) : Reader Member := do
  match controlCode? c with
  | some n => pure (.code n)
  | none =>
    if isCategory c then pure .category
    else if c = 'x' then return .code (← hexEscape start c 2)
    else if c = 'u' then return .code (← hexEscape start c 4)
    else if c = 'U' then return .code (← hexEscape start c 8)
    else if c = 'N' then return .code (← nameEscape start)
    else if isOctal c then
      let ds ← takeWhile isOctal 2
      return .code (← octalCode start (c :: ds))
    else if c.isAlphanum then failAt (.badEscape ['\\', c]) start
    else pure (.code c.toNat)

/-! ## Escapes outside sets -/

/-- A reference to a group by one or two digits. -/
def backreference (start digits : List Char) : Reader Node := do
  let st ← get
  let number := numberIn 10 digits
  if st.groups.length < number then failAt (.invalidReference number) (start.drop 1)
  else
    match st.closed? number with
    | none => failAt .openGroup start
    | some w =>
      checkBehind number
      pure (.backref w)

/-- An escape that starts with a digit other than zero: three octal digits are a character, one or
two digits refer to a group. -/
def digitEscape (start : List Char) (c : Char) : Reader Node := do
  match ← peek with
  | some (.plain d) =>
    if d.isDigit then
      advance
      match isOctal c && isOctal d, ← peek with
      | true, some (.plain e) =>
        if isOctal e then
          advance
          let _ ← octalCode start [c, d, e]
          pure .unit
        else backreference start [c, d]
      | _, _ => backreference start [c, d]
    else backreference start [c]
  | _ => backreference start [c]

/-- What an escape outside sets stands for; `c` is the character behind the backslash. -/
def escape (start : List Char) (c : Char) : Reader Node := do
  if isPosition c then pure .anchor
  else if isCategory c || (controlCode? c).isSome then pure .unit
  else if c = 'x' then
    let _ ← hexEscape start c 2
    pure .unit
  else if c = 'u' then
    let _ ← hexEscape start c 4
    pure .unit
  else if c = 'U' then
    let _ ← hexEscape start c 8
    pure .unit
  else if c = 'N' then
    let _ ← nameEscape start
    pure .unit
  else if c = '0' then
    let _ ← takeWhile isOctal 2
    pure .unit
  else if c.isDigit then digitEscape start c
  else if c.isAlpha then failAt (.badEscape ['\\', c]) start
  else pure .unit

end ContentBlocker.Regex
