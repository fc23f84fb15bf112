import ContentBlocker.Regex.Escape

/-!
# Repetitions

A repetition is written by `*`, `+`, `?` or by bounds in braces, and takes the part before it.  What
looks like bounds but is none is an ordinary brace.
-/

namespace ContentBlocker.Regex

/-- The least and the greatest count of a repetition. -/
abbrev Counts := Nat × Option Nat

/-- Counts from here on are refused. -/
def countBound : Nat := Nat.pow 2 32 - 1

/-- The most digits of a count. -/
def countDigits : Nat := 4300

/-- A count by its digits. -/
def count (digits : List Char) : Reader Nat :=
  if countDigits < digits.length then refuse (.numeralTooLong digits.length)
  else if countBound ≤ numberIn 10 digits then refuse .repetitionTooLarge
  else pure (numberIn 10 digits)

/-- The bounds of a repetition from behind the opening brace, or nothing if there are none; then
the reader stays behind the brace. -/
def bounds? : Reader (Option Counts) := do
  let start ← here
  if (← peek) = some (.plain '\x7d') then pure none
  else
    let low ← takeAll Char.isDigit
    let high ← if ← accept ',' then takeAll Char.isDigit else pure low
    if ← accept '\x7d' then
      let least ← if low.isEmpty then pure 0 else count low
      if high.isEmpty then pure (some (least, none))
      else
        let most ← count high
        if most < least then failAt .leastAboveMost start else pure (some (least, some most))
    else
      moveTo start
      pure none

/-- The counts that a repetition character stands for; none if it is an ordinary character. -/
def counts? (c : Char) : Reader (Option Counts) :=
  if c = '?' then pure (some (0, some 1))
  else if c = '*' then pure (some (0, none))
  else if c = '+' then pure (some (1, none))
  else bounds?

/-- How greedy a repetition is, by the character behind it. -/
def greed : Reader Greed := do
  if ← accept '?' then pure .lazy
  else if ← accept '+' then pure .possessive
  else pure .greedy

/-- Repeats the last part of those in `done`, which are in reverse; `start` is the pattern from the
repetition on. -/
def repeatLast (start : List Char) (counts : Counts) (done : List Node) : Reader (List Node) := do
  match done with
  | [] => failAt .nothingToRepeat start
  | .anchor :: _ => failAt .nothingToRepeat start
  | .repeated .. :: _ => failAt .multipleRepeat start
  | last :: earlier =>
    let g ← greed
    pure (.repeated g counts.1 counts.2 last :: earlier)

end ContentBlocker.Regex
