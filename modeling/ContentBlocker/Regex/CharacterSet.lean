import ContentBlocker.Regex.Escape

/-!
# Sets of characters

A set in brackets lists characters, classes and ranges.  Its first member may be a closing bracket,
and a hyphen before the closing bracket is a member.
-/

namespace ContentBlocker.Regex

/-- The member that a token stands for; `start` is the pattern from the token on. -/
def member (start : List Char) : Token → Reader Member
  | .plain c => pure (.code c.toNat)
  | .escaped c => setEscape start c

/-- Refuses a range unless both ends are characters, in order. -/
def checkRange (low high : Token) (first last : Member) : Reader Unit :=
  match first, last with
  | .code a, .code b =>
    if b < a then bad else pure ()
  | _, _ => bad
where
  bad : Reader Unit :=
    failBack (.badRange low.text high.text) (low.text.length + 1 + high.text.length)

/-- Takes the members of a set and its closing bracket, in at most `fuel` rounds; `start` is the
pattern from the opening bracket on. -/
def setLoop (start : List Char) : Nat → Bool → Reader Unit
  | 0, _ => failAt .unterminatedSet start
  | fuel + 1, isFirst => do
    let memberStart ← here
    match ← take? with
    | none => failAt .unterminatedSet start
    | some low =>
      if low = .plain ']' && !isFirst then pure ()
      else
        let first ← member memberStart low
        if ← accept '-' then
          let lastStart ← here
          match ← take? with
          | none => failAt .unterminatedSet start
          | some high =>
            if high = .plain ']' then pure ()
            else
              let last ← member lastStart high
              checkRange low high first last
              setLoop start fuel false
        else setLoop start fuel false

/-- A set, from behind its opening bracket. -/
def characterSet (start : List Char) : Reader Node := do
  let _ ← accept '^'
  setLoop start (start.length + 1) true
  pure .unit

end ContentBlocker.Regex
