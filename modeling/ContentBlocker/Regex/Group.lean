import ContentBlocker.Regex.CharacterSet
import ContentBlocker.Regex.Flags
import ContentBlocker.Regex.Quantifier
import ContentBlocker.Decimal.Numeral

/-!
# Parentheses

What an opening parenthesis begins: a capturing group, a group with flags, a comment, a reference to
a named group, a look-around or a condition.  The bodies are read by a reader that is given, one for
alternatives and one for a single branch, so that nesting is the recursion of the caller alone.
-/

namespace ContentBlocker.Regex

/-- The readers of what stands in parentheses; their argument says whether blanks and comments are
skipped. -/
structure Bodies where
  branch : Bool → Reader Node
  alternatives : Bool → Reader Node

/-- What a parenthesis adds to the pattern. -/
inductive Content where
  | node (n : Node)
  | nothing
  /-- flags for the whole pattern -/
  | flags

/-- Letters, digits and underscores, without a digit in front. -/
def isIdentifier : List Char → Bool
  | [] => false
  | c :: rest => (c.isAlpha || c = '_') && rest.all fun d => d.isAlphanum || d = '_'

/-- Takes the closing parenthesis of a group that began at `start`. -/
def close (start : List Char) : Reader Unit := do
  if ← accept ')' then pure () else failAt .unterminatedGroup start

/-- Takes a group name and its terminator. -/
def groupName (terminator : Char) : Reader (List Char) := do
  let name ← nameUntil terminator "group name"
  if isIdentifier name then pure name else failBack (.badGroupName name) (name.length + 1)

/-- The number of the group with a name, read just now. -/
def groupNamed (name : List Char) : Reader Nat := do
  match (← get).names.lookup (String.ofList name) with
  | some n => pure n
  | none => failBack (.unknownGroupName name) (name.length + 1)

/-! ## Groups -/

/-- A capturing group from behind its name, if it has one. -/
def capture (bodies : Bodies) (verbose : Bool) (start : List Char) (name : Option (List Char)) :
    Reader Node := do
  let st ← get
  let number := st.groups.length + 1
  match name.bind fun n => (st.names.lookup (String.ofList n)).map (n, ·) with
  | some (n, earlier) => failBack (.renamedGroup n number earlier) (n.length + 1)
  | none =>
    set (st.openGroup (name.map String.ofList))
    let body ← bodies.alternatives verbose
    close start
    modify (·.closeGroup number body.width)
    pure (.group body)

/-- A group that captures nothing, from its body on. -/
def plainGroup (bodies : Bodies) (verbose : Bool) (start : List Char) : Reader Node := do
  let body ← bodies.alternatives verbose
  close start
  pure (.group body)

/-- Skips a comment up to its parenthesis. -/
def comment (start : List Char) : Nat → Reader Unit
  | 0 => failAt .unterminatedComment start
  | fuel + 1 => do
    match ← take? with
    | none => failAt .unterminatedComment start
    | some t => if t = .plain ')' then pure () else comment start fuel

/-- A look-ahead from its body on. -/
def lookAhead (bodies : Bodies) (verbose : Bool) (start : List Char) : Reader Node := do
  let body ← bodies.alternatives verbose
  close start
  pure (.look false body)

/-- A look-behind from its body on. -/
def lookBehind (bodies : Bodies) (verbose : Bool) (start : List Char) : Reader Node := do
  let outer := (← get).behind
  modify fun st => { st with behind := outer.or (some st.groups.length) }
  let body ← bodies.alternatives verbose
  modify fun st => { st with behind := outer }
  close start
  pure (.look true body)

/-! ## Conditions -/

/-- Condition group numbers from here on are refused at once. -/
def groupBound : Nat := Nat.pow 2 30 - 1

/-- The group that a condition asks for, by name or by number. -/
def conditionGroup : Reader Nat := do
  let name ← nameUntil ')' "group name"
  if isIdentifier name then groupNamed name
  else
    match Numeral.read? (Text.ofChars name) with
    | some (.ofNat 0) => failBack .badGroupNumber (name.length + 1)
    | some (.ofNat n) =>
      if groupBound ≤ n then failBack (.invalidReference n) (name.length + 1)
      else
        modify fun st =>
          if st.wanted.any (·.1 = n) then st
          else { st with wanted := st.wanted ++ [(n, st.rest.length + name.length + 1)] }
        pure n
    | _ => failBack (.badGroupName name) (name.length + 1)

/-- A condition from behind its second parenthesis. -/
def conditional (bodies : Bodies) (verbose : Bool) (start : List Char) : Reader Node := do
  let number ← conditionGroup
  checkBehind number
  let yes ← bodies.branch verbose
  let no ← if ← accept '|' then
      let no ← bodies.branch verbose
      if (← peek) = some (.plain '|') then fail .manyBranches else pure no
    else pure .empty
  close start
  pure (.conditional yes no)

/-! ## Extensions -/

/-- What follows `(?P`. -/
def namedExtension (bodies : Bodies) (verbose : Bool) (start : List Char) : Reader Node := do
  if ← accept '<' then
    let name ← groupName '>'
    capture bodies verbose start (some name)
  else if ← accept '=' then
    let name ← groupName ')'
    let number ← groupNamed name
    match (← get).closed? number with
    | none => failBack .openGroup (name.length + 1)
    | some w =>
      checkBehind number
      pure (.backref w)
  else
    match ← take? with
    | none => fail .unexpectedEnd
    | some t => failBack (.unknownExtension ('P' :: t.text)) (t.text.length + 2)

/-- What follows `(?<`. -/
def behindExtension (bodies : Bodies) (verbose : Bool) (start : List Char) : Reader Node := do
  match ← take? with
  | none => fail .unexpectedEnd
  | some t =>
    if t = .plain '=' || t = .plain '!' then lookBehind bodies verbose start
    else failBack (.unknownExtension ('<' :: t.text)) (t.text.length + 2)

/-- What follows `(?`. -/
def extension (bodies : Bodies) (verbose : Bool) (start : List Char) : Reader Content := do
  match ← take? with
  | none => fail .unexpectedEnd
  | some (.escaped c) => failBack (.unknownExtension ['\\', c]) 3
  | some (.plain c) =>
    if c = 'P' then return .node (← namedExtension bodies verbose start)
    else if c = ':' || c = '>' then return .node (← plainGroup bodies verbose start)
    else if c = '#' then
      comment start ((← here).length + 1)
      pure .nothing
    else if c = '=' || c = '!' then return .node (← lookAhead bodies verbose start)
    else if c = '<' then return .node (← behindExtension bodies verbose start)
    else if c = '(' then return .node (← conditional bodies verbose start)
    else if isFlag c || c = '-' then
      match ← flagGroup c with
      | .whole on =>
        modify fun st => { st with flags := on ++ st.flags }
        pure .flags
      | .part on off =>
        let verbose := (verbose || on.contains 'x') && !off.contains 'x'
        return .node (← plainGroup bodies verbose start)
    else failBack (.unknownExtension [c]) 2

/-- What follows an opening parenthesis; `start` is the pattern from the parenthesis on. -/
def parenthesis (bodies : Bodies) (verbose : Bool) (start : List Char) : Reader Content := do
  if ← accept '?' then extension bodies verbose start
  else return .node (← capture bodies verbose start none)

end ContentBlocker.Regex
