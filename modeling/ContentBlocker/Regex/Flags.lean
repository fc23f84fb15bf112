import ContentBlocker.Regex.State

/-!
# Flags in a pattern

A group may start with letters of flags, which it turns on, and behind a hyphen with letters that
it turns off.  Without a body the letters hold for the whole pattern.
-/

namespace ContentBlocker.Regex

/-- The letters of flags. -/
def isFlag (c : Char) : Bool := ['i', 'L', 'm', 's', 'x', 'a', 't', 'u'].contains c

/-- The flags that choose between classes of characters exclude each other. -/
def isCharacterFlag (c : Char) : Bool := c = 'a' || c = 'u' || c = 'L'

/-- The flag that holds for the whole pattern only. -/
def isGlobalFlag (c : Char) : Bool := c = 't'

/-- Flags of a group, or of the whole pattern. -/
inductive FlagGroup where
  | whole (on : List Char)
  | part (on off : List Char)

/-- Refuses a token that is no flag: with one cause if it is a letter, with another if not. -/
def refuseFlag {α : Type} (other : Cause) (t : Token) : Reader α :=
  match t with
  | .plain c => failBack (if c.isAlpha then .unknownFlag else other) 1
  | .escaped _ => failBack other 2

/-- Takes the letters turned on, from letter `c` on, and the character that ends them. -/
def flagsOn : Nat → List Char → Char → Reader (List Char × Char)
  | 0, on, c => pure (on, c)
  | fuel + 1, on, c => do
    if c = 'L' then fail .localeFlag
    else if isCharacterFlag c && on.any (fun d => isCharacterFlag d && d ≠ c) then
      fail .conflictingFlags
    else
      match ← take? with
      | none => fail .missingFlagEnd
      | some (.plain d) =>
        if d = ')' || d = '-' || d = ':' then pure (c :: on, d)
        else if isFlag d then flagsOn fuel (c :: on) d
        else refuseFlag .missingFlagEnd (.plain d)
      | some t => refuseFlag .missingFlagEnd t

/-- Takes the letters turned off, from letter `c` on, and the colon behind them. -/
def flagsOff : Nat → List Char → Char → Reader (List Char)
  | 0, off, _ => pure off
  | fuel + 1, off, c => do
    if isCharacterFlag c then fail .characterFlagOff
    else
      match ← take? with
      | none => fail .missingColon
      | some (.plain d) =>
        if d = ':' then pure (c :: off)
        else if isFlag d then flagsOff fuel (c :: off) d
        else refuseFlag .missingColon (.plain d)
      | some t => refuseFlag .missingColon t

/-- Takes the first letter behind the hyphen and all that follows it. -/
def flagsBehindHyphen : Reader (List Char) := do
  match ← take? with
  | none => fail .missingFlag
  | some (.plain c) =>
    if isFlag c then flagsOff ((← here).length + 1) [] c
    else refuseFlag .missingFlag (.plain c)
  | some t => refuseFlag .missingFlag t

/-- The flags of a group, from behind their first character, which is a flag or a hyphen. -/
def flagGroup (c : Char) : Reader FlagGroup := do
  let (on, last) ← if c = '-' then pure ([], c) else flagsOn ((← here).length + 1) [] c
  if last = ')' then pure (.whole on)
  else if on.any isGlobalFlag then failBack .globalFlagOn 1
  else
    let off ← if last = '-' then flagsBehindHyphen else pure []
    if off.any isGlobalFlag then failBack .globalFlagOff 1
    else if on.any off.contains then failBack .flagOnAndOff 1
    else pure (.part on off)

end ContentBlocker.Regex
