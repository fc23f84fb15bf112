import ContentBlocker.Compile.Slot

/-!
# Compilations of one client

At most one compilation of a client runs and at most one more is queued behind it, which all later
requests share.  A compilation takes the client's rules when it starts.  What it finds at its end
counts only if the client was not discarded in the meantime: a discard begins a new epoch.
-/

namespace ContentBlocker

/-- How a compilation that was asked for ended. -/
abbrev Outcome := Except Failure Summary

/-- A compilation that has taken the rules. -/
structure Flight where
  ticket : Nat
  /-- the epoch in which it started -/
  epoch : Nat
  conversion : RuleList.Conversion
deriving DecidableEq, Repr

/-- The compilation of a client that runs. -/
inductive Running where
  /-- it waits for a worker -/
  | waiting (ticket : Nat)
  /-- it is at the service -/
  | flying (flight : Flight)
deriving DecidableEq, Repr

def Running.ticket : Running → Nat
  | waiting ticket => ticket
  | flying flight => flight.ticket

/-- A discard that waits for the compilation under way. -/
structure Removal where
  /-- there was a list in use -/
  hadArtifact : Bool
  /-- the service may have a list -/
  maybeStored : Bool
deriving DecidableEq, Repr

structure Cell where
  slot : Slot
  epoch : Nat
  /-- the client was discarded and nothing was asked for since -/
  removed : Bool
  running : Option Running
  queued : Option Nat
  removals : List Removal
deriving DecidableEq, Repr

namespace Cell

def empty : Cell := ⟨.empty, 0, false, none, none, []⟩

/-- Whether nothing is left that the cell must be kept for. -/
def isIdle (c : Cell) : Bool :=
  c.running.isNone && c.queued.isNone && (c.removed || c.slot.isVacant)

/-- The flight of a client whose compilation is at the service. -/
def flight? (c : Cell) : Option Flight :=
  match c.running with
  | some (.flying f) => some f
  | _ => none

/-- What a discard of the cell has to do. -/
def removal (c : Cell) : Removal :=
  let had := c.slot.artifact.isSome
  ⟨had, had || c.slot.state = .compiling⟩

/-- The cell after a discard was asked for. -/
def discarded (c : Cell) : Cell :=
  { c with slot := .empty, epoch := c.epoch + 1, removed := true }

/-- The cell with a compilation that has taken the rules. -/
def takeOff (c : Cell) (f : Flight) : Cell :=
  { c with slot := { c.slot with state := .compiling }, running := some (.flying f) }

/-- The cell after the service has answered a flight. -/
def land (c : Cell) (f : Flight) (answer : Except Report Artifact) : Cell :=
  if c.epoch = f.epoch then
    match answer with
    | .ok a => { c with slot := .succeed a }
    | .error r => { c with slot := c.slot.fail (compilationText r) }
  else c

/-- How a flight ends for those who asked for it. -/
def outcome (c : Cell) (client : String) (f : Flight) (answer : Except Report Artifact) : Outcome :=
  match answer with
  | .ok a => .ok { Summary.ofConversion client f.conversion a with discarded := c.epoch ≠ f.epoch }
  | .error r => .error (.compilation client (compilationText r))

end Cell

end ContentBlocker
