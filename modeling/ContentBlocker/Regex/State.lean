import ContentBlocker.Regex.Node

/-!
# Reading a pattern

A pattern is read token by token, where a backslash and the character behind it are one token.  The
reader's state is the rest of the pattern with what is known about flags and groups.  A backslash
at the very end of a pattern is refused as soon as the token before it is taken.
-/

namespace ContentBlocker.Regex

/-! ## Tokens -/

inductive Token where
  | plain (c : Char)
  | escaped (c : Char)
deriving DecidableEq, Repr

def Token.text : Token → List Char
  | plain c => [c]
  | escaped c => ['\\', c]

/-- The first token of a text. -/
def token? : List Char → Option Token
  | [] => none
  | '\\' :: c :: _ => some (.escaped c)
  | c :: _ => some (.plain c)

/-- The text behind its first token. -/
def afterToken : List Char → List Char
  | [] => []
  | '\\' :: _ :: rest => rest
  | _ :: rest => rest

/-! ## The state -/

structure State where
  rest : List Char
  /-- the letters of the flags that hold for the whole pattern -/
  flags : List Char
  /-- the widths of the groups from group 1 on, none while a group is open -/
  groups : List (Option Width)
  names : List (String × Nat)
  /-- inside a look-behind, the number of groups opened before the outermost one -/
  behind : Option Nat
  /-- group numbers that conditions ask for, with the number of characters left there -/
  wanted : List (Nat × Nat)

namespace State

/-- The width of a group that has been closed. -/
def closed? (st : State) (number : Nat) : Option Width :=
  if number = 0 then none else (st.groups[number - 1]?).join

/-- The state with one more group, which is open. -/
def openGroup (st : State) (name : Option String) : State :=
  { st with
    groups := st.groups ++ [none]
    names := match name with
      | some n => st.names ++ [(n, st.groups.length + 1)]
      | none => st.names }

def closeGroup (st : State) (number : Nat) (width : Width) : State :=
  { st with groups := st.groups.set (number - 1) (some width) }

end State

/-! ## Readers -/

abbrev Reader := StateT State (Except Refusal)

/-- Refuses the pattern at the place `back` characters before the next token. -/
def failBack {α : Type} (cause : Cause) (back : Nat) : Reader α := fun st =>
  .error (.malformed cause (some (st.rest.length + back)))

/-- Refuses the pattern at the next token. -/
def fail {α : Type} (cause : Cause) : Reader α := failBack cause 0

/-- Refuses the pattern at an earlier place, where `text` was left. -/
def failAt {α : Type} (cause : Cause) (text : List Char) : Reader α := fun _ =>
  .error (.malformed cause (some text.length))

def refuse {α : Type} (refusal : Refusal) : Reader α := fun _ => .error refusal

/-- The next token, which stays. -/
def peek : Reader (Option Token) := fun st => .ok (token? st.rest, st)

/-- What is left of the pattern. -/
def here : Reader (List Char) := fun st => .ok (st.rest, st)

/-- Goes to a place in the pattern; a backslash alone is refused. -/
def moveTo (text : List Char) : Reader Unit := fun st =>
  if text = ['\\'] then .error (.malformed .trailingBackslash (some 1))
  else .ok ((), { st with rest := text })

/-- Goes past the next token. -/
def advance : Reader Unit := do moveTo (afterToken (← here))

/-- Takes the next token. -/
def take? : Reader (Option Token) := do
  let t ← peek
  advance
  pure t

/-- Takes the next token if it is the character `c`. -/
def accept (c : Char) : Reader Bool := do
  if (← peek) = some (.plain c) then
    advance
    pure true
  else pure false

/-- Takes at most `n` characters of a class. -/
def takeWhile (p : Char → Bool) : Nat → Reader (List Char)
  | 0 => pure []
  | n + 1 => do
    match ← peek with
    | some (.plain c) =>
      if p c then
        advance
        pure (c :: (← takeWhile p n))
      else pure []
    | _ => pure []

/-- Takes all characters of a class. -/
def takeAll (p : Char → Bool) : Reader (List Char) := do takeWhile p (← here).length

/-- Takes the text up to a terminator, in at most `fuel` tokens on top of `done`. -/
def nameLoop (terminator : Char) (what : String) : Nat → List Char → Reader (List Char)
  | 0, done => pure done
  | fuel + 1, done => do
    let t ← take?
    match t with
    | none =>
      if done.isEmpty then fail (.missingName what)
      else failBack (.unterminatedName terminator) done.length
    | some t =>
      if t = .plain terminator then
        if done.isEmpty then failBack (.missingName what) 1 else pure done
      else nameLoop terminator what fuel (done ++ t.text)

/-- Takes a name and its terminator. -/
def nameUntil (terminator : Char) (what : String) : Reader (List Char) := do
  nameLoop terminator what ((← here).length + 1) []

/-! ## References to groups -/

/-- Inside a look-behind, refuses references to groups that are open or were opened in it. -/
def checkBehind (number : Nat) : Reader Unit := fun st =>
  match st.behind with
  | none => .ok ((), st)
  | some before =>
    if (st.closed? number).isNone then fail .openGroup st
    else if before < number then fail .groupOfSameLookBehind st
    else .ok ((), st)

end ContentBlocker.Regex
