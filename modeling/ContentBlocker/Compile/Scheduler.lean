import ContentBlocker.Compile.Cell
import ContentBlocker.Store.Basic

/-!
# The scheduler

The scheduler runs compilations of many clients on a few workers.  The gate of a client stops its
compilation at the service until it is opened; all else is done as soon as it can be.  `settle` does
what can be done, so that between two operations only stopped compilations, those queued behind them
and those without a worker are unfinished.

Behind the operations are threads, which could take their steps in other orders too: see `Threads`.
-/

namespace ContentBlocker

/-- What happened, as far as others can see it. -/
inductive Notice where
  /-- the service was given a document, and accepted it or not -/
  | compile (client document : String) (accepted : Bool)
  /-- the service was told to remove a list -/
  | remove (client : String)
  /-- a ticket was answered -/
  | complete (ticket : Nat) (outcome : Outcome)
  /-- a discard that had waited was done -/
  | discard (client : String) (hadArtifact : Bool)

structure Scheduler (σ : Type) where
  workers : Nat
  /-- whether the workers take new work -/
  accepting : Bool
  /-- the clients whose gates are closed -/
  held : List String
  cells : Table String Cell
  /-- the clients that wait for a worker, first come first served -/
  line : List String
  nextTicket : Nat
  /-- what happened, latest first -/
  trace : List Notice
  store : Store
  service : σ

namespace Scheduler

variable {σ : Type}

def fresh (workers : Nat) (limits : Limits) (state : σ) : Scheduler σ :=
  ⟨workers, true, [], [], [], 0, [], .empty limits, state⟩

/-! ## Looking -/

def cellOf (s : Scheduler σ) (client : String) : Cell := (s.cells.get? client).getD .empty

def slotOf (s : Scheduler σ) (client : String) : Slot := (s.cellOf client).slot

/-- The clients that have a cell, sorted. -/
def sortedClients (s : Scheduler σ) : List String := s.cells.keys.mergeSort (· ≤ ·)

/-- The number of workers that are at the service. -/
def busy (s : Scheduler σ) : Nat := (s.cells.filter fun p => p.2.flight?.isSome).length

/-- How a ticket was answered, if it was. -/
def outcome? (s : Scheduler σ) (ticket : Nat) : Option Outcome :=
  s.trace.findSome? fun
    | .complete t outcome => if t = ticket then some outcome else none
    | _ => none

/-! ## Parts of steps -/

def note (s : Scheduler σ) (n : Notice) : Scheduler σ := { s with trace := n :: s.trace }

/-- Puts a cell back, unless nothing is left that it must be kept for. -/
def keep (s : Scheduler σ) (client : String) (c : Cell) : Scheduler σ :=
  { s with cells := if c.isIdle then s.cells.erase client else s.cells.set client c }

/-- Gives a ticket of a client that runs nothing to the workers.  Workers that take no new work
answer it at once. -/
def start (s : Scheduler σ) (client : String) (c : Cell) (ticket : Nat) : Scheduler σ :=
  if s.accepting then
    { s.keep client { c with running := some (.waiting ticket) } with line := s.line ++ [client] }
  else
    (s.keep client { c with running := none }).note
      (.complete ticket (.error (.defect .poolClosed)))

/-- Ends the compilation of a client that runs and starts the queued one. -/
def finish (s : Scheduler σ) (client : String) (c : Cell) : Scheduler σ :=
  match c.queued with
  | some ticket => s.start client { c with queued := none } ticket
  | none => s.keep client { c with running := none }

/-- Tells the service to remove the list of a client, if it may have one.  A removal that fails is
not reported. -/
def issue (service : Service σ) (s : Scheduler σ) (client : String) (r : Removal) : Scheduler σ :=
  if r.maybeStored then
    { s with service := (service.remove (listIdentifier client) s.service).2 }.note (.remove client)
  else s

/-- Does the discards of a client that waited. -/
def removeAll (service : Service σ) (s : Scheduler σ) (client : String) (rs : List Removal) :
    Scheduler σ :=
  rs.foldl (fun s r => (s.issue service client r).note (.discard client r.hadArtifact)) s

/-- Lets the compilation of a client through to the service and ends it. -/
def land (service : Service σ) (s : Scheduler σ) (client : String) (f : Flight) : Scheduler σ :=
  let c := s.cellOf client
  let document := f.conversion.document
  let (answer, state) := service.compile (listIdentifier client) document s.service
  let s := { s with service := state }.note (.compile client document answer.isOk)
  let s := s.note (.complete f.ticket (c.outcome client f answer))
  let s := s.removeAll service client c.removals
  s.finish client { c.land f answer with removals := [] }

/-- Gives a worker to a client: its compilation takes the rules, and without rules ends at once. -/
def takeOff (service : Service σ) (s : Scheduler σ) (client : String) (ticket : Nat) :
    Scheduler σ :=
  let c := s.cellOf client
  let rules := (s.store.rulesOf client).merged
  if rules.isEmpty then
    (s.note (.complete ticket (.ok (.ofSkipped client)))).finish client c
  else
    let f : Flight := ⟨ticket, c.epoch, RuleList.Conversion.ofRules rules⟩
    let s := { s with cells := s.cells.set client (c.takeOff f) }
    if s.held.contains client then s else s.land service client f

/-- Gives free workers to the clients that wait for one, in at most `fuel` rounds. -/
def dispatch (service : Service σ) : Nat → Scheduler σ → Scheduler σ
  | 0, s => s
  | fuel + 1, s =>
    match s.line with
    | [] => s
    | client :: rest =>
      if s.busy < s.workers then
        let s := { s with line := rest }
        match (s.cellOf client).running with
        | some (.waiting ticket) => dispatch service fuel (s.takeOff service client ticket)
        | _ => dispatch service fuel s
      else s

/-- The number of tickets that workers may still be given. -/
def backlog (s : Scheduler σ) : Nat := s.line.length + s.cells.length

/-- Does all that can be done. -/
def settle (service : Service σ) (s : Scheduler σ) : Scheduler σ :=
  dispatch service (s.backlog + 1) s

/-! ## Operations -/

/-- Asks for a compilation; the answer is a ticket, which several requests may share. -/
def submit (service : Service σ) (s : Scheduler σ) (client : String) : Nat × Scheduler σ :=
  let c := { s.cellOf client with removed := false }
  match c.queued, c.running with
  | some ticket, _ => (ticket, { s with cells := s.cells.set client c })
  | none, some _ =>
    (s.nextTicket,
      { s with
        cells := s.cells.set client { c with queued := some s.nextTicket }
        nextTicket := s.nextTicket + 1 })
  | none, none =>
    (s.nextTicket,
      ({ s with nextTicket := s.nextTicket + 1 }.start client c s.nextTicket).settle service)

/-- Closes the gate of a client. -/
def hold (s : Scheduler σ) (client : String) : Scheduler σ :=
  { s with held := client :: s.held.filter (· ≠ client) }

/-- Lets the stopped compilation of a client through, whether or not its gate is closed. -/
def releaseOnce (service : Service σ) (s : Scheduler σ) (client : String) : Scheduler σ :=
  match (s.cellOf client).flight? with
  | some f => (s.land service client f).settle service
  | none => s

/-- Opens the gate of a client. -/
def release (service : Service σ) (s : Scheduler σ) (client : String) : Scheduler σ :=
  { s with held := s.held.filter (· ≠ client) }.releaseOnce service client

/-- Forgets the list of a client.  The answer is whether there was one, or none if a compilation of
the client is at the service: then the rest is done when it has ended. -/
def discard (service : Service σ) (s : Scheduler σ) (client : String) :
    Option Bool × Scheduler σ :=
  match s.cells.get? client with
  | none => (some false, s)
  | some c =>
    let r := c.removal
    match c.flight? with
    | some _ =>
      (none,
        { s with cells := s.cells.set client { c.discarded with removals := c.removals ++ [r] } })
    | none => (some r.hadArtifact, (s.issue service client r).keep client c.discarded)

/-- Lets the workers take no new work. -/
def shutdown (s : Scheduler σ) : Scheduler σ := { s with accepting := false }

end Scheduler

end ContentBlocker
