import ContentBlocker.Defect
import ContentBlocker.Text.Template.Filling

/-!
# Throttled reports

A report that could be made over and over has a key, and is made only if the last one under its key
is long enough ago.  The throttle keeps the time of the last grant of every key.
-/

namespace ContentBlocker

/-- The keys that had a grant, with the time of the last one. -/
structure Throttle where
  grants : List (String × Int)
deriving DecidableEq, Repr

namespace Throttle

def empty : Throttle := ⟨[]⟩

/-- The time of the last grant of a key. -/
def last? (t : Throttle) (key : String) : Option Int := t.grants.lookup key

/-- The throttle after a grant. -/
def grant (t : Throttle) (key : String) (now : Int) : Throttle :=
  ⟨(key, now) :: t.grants.filter (·.1 ≠ key)⟩

/-- Whether a report may be made: there was none under its key, or the last is `interval` ago.  The
interval matters only if there was one. -/
def isDue (t : Throttle) (key : String) (now : Int) (interval : Json) : Except Defect Bool :=
  match t.last? key with
  | none => .ok true
  | some last => interval.real.map fun interval => !interval.exceeds (now - last)

/-- The throttle after a question for a grant, with the answer. -/
def answer (t : Throttle) (key : String) (now : Int) (granted : Bool) : Bool × Throttle :=
  (granted, if granted then t.grant key now else t)

/-- Asks for a grant. -/
def ask (t : Throttle) (key : String) (now : Int) (interval : Json) :
    Except Defect (Bool × Throttle) :=
  (t.isDue key now interval).map (t.answer key now)

/-- Forgets every key that begins with `stem`. -/
def forget (t : Throttle) (stem : String) : Throttle :=
  ⟨t.grants.filter fun g => !stem.toList.isPrefixOf g.1.toList⟩

/-- The keys that had a grant, sorted. -/
def keys (t : Throttle) : List String := (t.grants.map (·.1)).mergeSort (· ≤ ·)

/-! ## Records -/

inductive Level where
  | warning
  | exception
deriving DecidableEq, Repr

def Level.name : Level → String
  | warning => "warning"
  | exception => "exception"

/-- A line of a log. -/
structure Record where
  level : Level
  text : Text
deriving DecidableEq, Repr

/-- The record of a template with its values, if the log takes it. -/
def record? (working : Bool) (level : Level) (template : Text) (args : List Json) :
    Option Record :=
  if working then (Text.Template.fill? template args).map (⟨level, ·⟩) else none

/-- What a record is made of: a template and the values for its places. -/
structure Line where
  level : Level
  template : Text
  args : List Json

/-- A log with states in `σ`.  It takes a line or fails. -/
structure Log (ε σ : Type) where
  take : Line → σ → Except ε Unit × σ

/-- A log that keeps its records in order.  It fails if it does not work, or if the values do not
fit their template. -/
def Log.keeping (working : Bool) : Log Unit (List Record) where
  take line records :=
    match record? working line.level line.template line.args with
    | some record => (.ok (), records ++ [record])
    | none => (.error (), records)

section

variable {ε σ : Type}

/-- Asks for a grant, and with it gives the log a line.  Either can fail. -/
def attempt (log : Log ε σ) (t : Throttle) (key : String) (now : Int) (interval : Json)
    (line : Line) (s : σ) : Except (Defect ⊕ ε) Unit × Throttle × σ :=
  match t.ask key now interval with
  | .error d => (.error (.inl d), t, s)
  | .ok (false, t) => (.ok (), t, s)
  | .ok (true, t) =>
    let (taken, s) := log.take line s
    (taken.mapError .inr, t, s)

/-- Makes a record if it is due.  A failure on the way is passed over, but what was done until then
counts: a line that the log does not take is lost, and its grant stays. -/
def report (log : Log ε σ) (t : Throttle) (key : String) (now : Int) (interval : Json)
    (line : Line) (s : σ) : Except (Defect ⊕ ε) Unit × Throttle × σ :=
  let (outcome, t, s) := t.attempt log key now interval line s
  (outcome.tryCatch fun _ => .ok (), t, s)

end

/-! ## Keys of clients -/

/-- How the keys of a client begin. -/
def clientStem (client : String) : String := s!"dnr.{client}."

/-- The key of reports about rules that were weakened or dropped. -/
def degradedKey (client : String) : String := clientStem client ++ "degraded"

/-- The key of reports about lists that could not be removed. -/
def removalKey (client : String) : String := clientStem client ++ "remove"

end Throttle

end ContentBlocker
