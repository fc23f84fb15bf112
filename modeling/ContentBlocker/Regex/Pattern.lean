import ContentBlocker.Regex.Group

/-!
# Patterns

A pattern is a choice of branches, and a branch is a row of parts.  `check` reads a whole pattern
and gives its shape, or says why the pattern is refused.
-/

namespace ContentBlocker.Regex

/-! ## Branches -/

/-- The blanks that are skipped where blanks and comments are. -/
def isPatternBlank (c : Char) : Bool :=
  c = ' ' || c = '\t' || c = '\n' || c = '\r' || c = '\x0b' || c = '\x0c'

/-- Skips the rest of a line. -/
def skipLine : Nat → Reader Unit
  | 0 => pure ()
  | fuel + 1 => do
    match ← take? with
    | none => pure ()
    | some t => if t = .plain '\n' then pure () else skipLine fuel

/-- Characters that repeat what stands before them. -/
def isRepetition (c : Char) : Bool := c = '*' || c = '+' || c = '?' || c = '\x7b'

/-- A branch being read: its parts in reverse, and whether blanks and comments are skipped. -/
structure Progress where
  parts : List Node
  verbose : Bool

/-- Takes the next part, which begins with token `t` at `start`.  Flags for the whole pattern are
possible only where `isFirst` holds and before every part. -/
def part (bodies : Bodies) (isFirst : Bool) (start : List Char) (t : Token) (p : Progress) :
    Reader Progress := do
  match t with
  | .escaped c => return { p with parts := (← escape start c) :: p.parts }
  | .plain c =>
    if p.verbose && isPatternBlank c then pure p
    else if p.verbose && c = '#' then
      skipLine ((← here).length + 1)
      pure p
    else if c = '[' then return { p with parts := (← characterSet start) :: p.parts }
    else if isRepetition c then
      match ← counts? c with
      | none => pure { p with parts := .unit :: p.parts }
      | some counts => return { p with parts := ← repeatLast start counts p.parts }
    else if c = '(' then
      match ← parenthesis bodies p.verbose start with
      | .node n => pure { p with parts := n :: p.parts }
      | .nothing => pure p
      | .flags =>
        if isFirst && p.parts.isEmpty then
          return { p with verbose := (← get).flags.contains 'x' }
        else failAt .lateGlobalFlags start
    else if c = '^' || c = '$' then pure { p with parts := .anchor :: p.parts }
    else pure { p with parts := .unit :: p.parts }

/-- Takes parts up to the end of the branch. -/
def partLoop (bodies : Bodies) (isFirst : Bool) : Nat → Progress → Reader Progress
  | 0, p => pure p
  | fuel + 1, p => do
    let start ← here
    match token? start with
    | none => pure p
    | some t =>
      if t = .plain '|' || t = .plain ')' then pure p
      else
        advance
        let p ← part bodies isFirst start t p
        partLoop bodies isFirst fuel p

/-- A branch with the given readers for what stands in parentheses. -/
def branchWith (bodies : Bodies) (isFirst verbose : Bool) : Reader Node := do
  let p ← partLoop bodies isFirst ((← here).length + 1) ⟨[], verbose⟩
  pure (.ofList p.parts.reverse)

/-! ## Alternatives -/

/-- Takes further branches, each behind a bar. -/
def branchLoop (branch : Reader Node) : Nat → Node → Reader Node
  | 0, done => pure done
  | fuel + 1, done => do
    if ← accept '|' then branchLoop branch fuel (.choice done (← branch)) else pure done

/-- Branches with bars between them. -/
def alternativesWith (branch : Bool → Reader Node) (verbose : Bool) : Reader Node := do
  let first ← branch verbose
  branchLoop (branch verbose) ((← here).length + 1) first

/-- The readers for parentheses nested below `depth`. -/
def bodiesWithin : Nat → Bodies
  | 0 => ⟨fun _ => pure .empty, fun _ => pure .empty⟩
  | depth + 1 =>
    ⟨fun verbose => branchWith (bodiesWithin depth) false verbose,
      fun verbose => alternativesWith (fun v => branchWith (bodiesWithin depth) false v) verbose⟩

/-- The branches of a whole pattern.  Flags for the whole pattern may stand at the start of the
first one, and the later ones heed them. -/
def topLevel (bodies : Bodies) : Reader Node := do
  let first ← branchWith bodies true false
  let verbose := (← get).flags.contains 'x'
  branchLoop (branchWith bodies false verbose) ((← here).length + 1) first

/-! ## Whole patterns -/

/-- Look-behinds from this width on cannot be run. -/
def runnableBound : Nat := Nat.pow 2 31

/-- What a pattern must meet once it has been read to its end. -/
def finish (node : Node) : Reader Node := do
  let st ← get
  if st.flags.contains 'a' && st.flags.contains 'u' then refuse .asciiAndUnicode
  else if !st.rest.isEmpty then fail .unbalanced
  else
    match st.wanted.find? (st.groups.length < ·.1) with
    | some (n, remaining) => refuse (.malformed (.invalidReference n) (some remaining))
    | none =>
      match node.review (st.flags.contains 't') with
      | some cause => refuse (.malformed cause none)
      | none => if node.looksBehind runnableBound then refuse .lookBehindTooWide else pure node

/-- Reads a whole pattern. -/
def pattern (depth : Nat) : Reader Node := do
  let text ← here
  moveTo text
  finish (← topLevel (bodiesWithin depth))

/-- The shape of a pattern, or why it is refused. -/
def check (text : List Char) : Except Refusal Node :=
  ((pattern (text.length + 1)).run ⟨text, [], [], [], none, []⟩).map (·.1)

end ContentBlocker.Regex
