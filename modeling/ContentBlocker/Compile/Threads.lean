import ContentBlocker.Compile.Scheduler
import ContentBlocker.Store.History

/-!
# Threads

The scheduler does all that can be done before it takes the next operation.  Here the threads behind
the operations take their steps one at a time and in any order.  A request that starts a compilation
gives it to the pool; a worker compiles; a discard waits until nobody compiles, and has the list
removed.  They meet in the slot of the client: what it says is read and written in single steps,
and its lock is held for the whole of a compilation and while the service is told to remove a list.

A slot that is dropped from the table stays with the threads that refer to it, and a client that
comes back is given another one, with a lock of its own.

What the scheduler does is what threads do in one of these orders.
-/

namespace ContentBlocker

/-! ## Slots -/

/-- The slot of a client, as threads share it. -/
structure SharedSlot where
  slot : Slot
  epoch : Nat
  /-- a compilation was started, and neither it nor the one behind it has ended -/
  running : Bool
  /-- the ticket of the compilation that is queued -/
  queued : Option Nat
  /-- the client was discarded and nothing was asked for since -/
  removed : Bool
  /-- a thread holds the lock -/
  locked : Bool
deriving DecidableEq, Repr

namespace SharedSlot

def empty : SharedSlot := ⟨.empty, 0, false, none, false, false⟩

/-- What the slot says, as a cell of which nothing runs. -/
def cell (x : SharedSlot) : Cell := ⟨x.slot, x.epoch, x.removed, none, x.queued, []⟩

/-- Whether nothing is left that the slot must be kept for. -/
def isIdle (x : SharedSlot) : Bool := !x.running && x.cell.isIdle

/-- The slot after a discard was asked for. -/
def discarded (x : SharedSlot) : SharedSlot :=
  { x with slot := .empty, epoch := x.epoch + 1, removed := true }

/-- The slot after a compilation found no rules, unless a discard came in between. -/
def skip (x : SharedSlot) (epoch : Nat) (previous : CompileState) : SharedSlot :=
  if x.epoch = epoch then { x with slot := { x.slot with state := previous } } else x

/-- The slot after the service has answered a flight. -/
def record (x : SharedSlot) (f : Flight) (answer : Except Report Artifact) : SharedSlot :=
  { x with slot := (x.cell.land f answer).slot }

end SharedSlot

/-! ## Threads that compile -/

/-- What a thread that compiles has done last.  A thread of the pool begins with `entering`, that of
a request with `starting`; both end with `refusing` when no ticket is left to refuse. -/
inductive Stage where
  /-- it has come to the slot -/
  | entering (ticket : Nat)
  /-- it has taken the lock -/
  | locked (ticket : Nat)
  /-- it has read the epoch, and the state that it has replaced by `compiling` -/
  | begun (ticket epoch : Nat) (previous : CompileState)
  /-- it has found no rules -/
  | skipping (ticket epoch : Nat) (previous : CompileState)
  /-- it has taken the rules -/
  | loaded (flight : Flight)
  /-- it has called the service -/
  | calling (flight : Flight)
  /-- it has come back from the service -/
  | answered (flight : Flight) (answer : Except Report Artifact)
  /-- it has put down in the slot what it found -/
  | recorded (ticket : Nat) (outcome : Outcome)
  /-- it has given back the lock -/
  | unlocked (ticket : Nat) (outcome : Outcome)
  /-- it has no compilation of its own any more; the pool has not taken these tickets -/
  | handing (refused : List Nat)
  /-- it has a compilation for the pool; the pool has not taken these tickets before -/
  | starting (ticket : Nat) (refused : List Nat)
  /-- it has nothing left but to answer these tickets -/
  | refusing (refused : List Nat)

/-- Whether nothing is left to do. -/
def Stage.isOver : Stage → Bool
  | refusing [] => true
  | _ => false

structure Thread where
  client : String
  /-- the number of the slot -/
  slot : Nat
  /-- whether it is one of the pool -/
  worker : Bool
  stage : Stage

/-- What a step of a thread with stages in `α` makes of its slot, of itself and of what is around
them. -/
structure Move (α σ : Type) where
  shared : SharedSlot
  stage : α
  service : σ
  told : Option Notice := none
  /-- the ticket that is given to the pool -/
  handed : Option Nat := none
  /-- whether the slot is dropped if it is idle -/
  ends : Bool := false

namespace Thread

variable {σ : Type}

/-- The next step of a thread, where the merged rules of its client are `rules` and its slot is `x`.
There is none while another thread holds the lock that it needs, and none when it is done. -/
def move (service : Service σ) (state : σ) (accepting : Bool) (rules : List Rule) (x : SharedSlot)
    (t : Thread) : Option (Move Stage σ) :=
  match t.stage with
  | .entering ticket =>
    if x.locked then none
    else some { shared := { x with locked := true }, stage := .locked ticket, service := state }
  | .locked ticket =>
    some
      { shared := { x with slot := { x.slot with state := .compiling } }
        stage := .begun ticket x.epoch x.slot.state
        service := state }
  | .begun ticket epoch previous =>
    let stage : Stage :=
      if rules.isEmpty then .skipping ticket epoch previous
      else .loaded ⟨ticket, epoch, .ofRules rules⟩
    some { shared := x, stage, service := state }
  | .skipping ticket epoch previous =>
    some
      { shared := x.skip epoch previous
        stage := .recorded ticket (.ok (.ofSkipped t.client))
        service := state }
  | .loaded f => some { shared := x, stage := .calling f, service := state }
  | .calling f =>
    let document := f.conversion.document
    let (answer, state) := service.compile (listIdentifier t.client) document state
    some
      { shared := x
        stage := .answered f answer
        service := state
        told := some (.compile t.client document answer.isOk) }
  | .answered f answer =>
    some
      { shared := x.record f answer
        stage := .recorded f.ticket (x.cell.outcome t.client f answer)
        service := state }
  | .recorded ticket outcome =>
    some
      { shared := { x with locked := false }, stage := .unlocked ticket outcome, service := state }
  | .unlocked ticket outcome =>
    some
      { shared := x
        stage := .handing []
        service := state
        told := some (.complete ticket outcome) }
  | .handing refused =>
    match x.queued with
    | some ticket =>
      some
        { shared := { x with queued := none }, stage := .starting ticket refused, service := state }
    | none =>
      some
        { shared := { x with running := false }
          stage := .refusing refused
          service := state
          ends := true }
  | .starting ticket refused =>
    if accepting then
      some { shared := x, stage := .refusing refused, service := state, handed := some ticket }
    else some { shared := x, stage := .handing (ticket :: refused), service := state }
  | .refusing [] => none
  | .refusing (ticket :: refused) =>
    some
      { shared := x
        stage := .refusing refused
        service := state
        told := some (.complete ticket (.error (.defect .poolClosed))) }

end Thread

/-! ## Discards -/

/-- What a discard has done last. -/
inductive RemoverStage where
  /-- it has changed the slot -/
  | waiting
  /-- it has taken the lock -/
  | locked
  /-- it has told the service to remove the list, if the service may have one -/
  | told
  /-- it has given back the lock -/
  | unlocked
  /-- it has dropped the slot, if nothing is left that the slot must be kept for -/
  | ended
deriving DecidableEq, Repr

/-- A discard that is under way. -/
structure Remover where
  client : String
  /-- the number of the slot -/
  slot : Nat
  removal : Removal
  stage : RemoverStage
deriving DecidableEq, Repr

/-- The next step of a discard whose slot is `x`.  There is none while another thread holds the lock
that it needs, and none when it is done.  A removal that fails is not reported. -/
def Remover.move {σ : Type} (service : Service σ) (state : σ) (x : SharedSlot) (r : Remover) :
    Option (Move RemoverStage σ) :=
  match r.stage with
  | .waiting =>
    if x.locked then none
    else some { shared := { x with locked := true }, stage := .locked, service := state }
  | .locked =>
    if r.removal.maybeStored then
      some
        { shared := x
          stage := .told
          service := (service.remove (listIdentifier r.client) state).2
          told := some (.remove r.client) }
    else some { shared := x, stage := .told, service := state }
  | .told =>
    some { shared := { x with locked := false }, stage := .unlocked, service := state }
  | .unlocked =>
    some
      { shared := x
        stage := .ended
        service := state
        told := some (.discard r.client r.removal.hadArtifact)
        ends := true }
  | .ended => none

/-! ## All threads -/

/-- A compilation that waits for a worker. -/
structure Job where
  ticket : Nat
  client : String
  /-- the number of the slot -/
  slot : Nat
deriving DecidableEq, Repr

structure Threads (σ : Type) where
  workers : Nat
  /-- whether the pool takes new work -/
  accepting : Bool
  /-- all slots that were made; the place of a slot is its number -/
  slots : List SharedSlot
  /-- the numbers of the slots that clients have -/
  table : Table String Nat
  /-- what waits for a worker, first come first served -/
  line : List Job
  compilers : List Thread
  removers : List Remover
  /-- the clients that tickets were given to; the place of a ticket is its number -/
  asked : List String
  /-- what happened, latest first -/
  trace : List Notice
  store : Store
  service : σ

namespace Threads

variable {σ : Type}

def fresh (workers : Nat) (limits : Limits) (state : σ) : Threads σ :=
  ⟨workers, true, [], [], [], [], [], [], [], .empty limits, state⟩

/-! ### Looking -/

def slotAt (s : Threads σ) (i : Nat) : SharedSlot := s.slots[i]?.getD .empty

/-- What is known of the compiled list of a client. -/
def slotOf (s : Threads σ) (client : String) : Slot :=
  ((s.table.get? client).map fun i => (s.slotAt i).slot).getD .empty

/-- The number of workers that have something to do. -/
def busy (s : Threads σ) : Nat := s.compilers.countP fun t => t.worker && !t.stage.isOver

/-- How a ticket was answered, if it was. -/
def outcome? (s : Threads σ) (ticket : Nat) : Option Outcome :=
  s.trace.findSome? fun
    | .complete t outcome => if t = ticket then some outcome else none
    | _ => none

/-! ### Parts of steps -/

def put (s : Threads σ) (i : Nat) (x : SharedSlot) : Threads σ :=
  { s with slots := s.slots.set i x }

/-- Drops a slot from the table, unless something is left that it must be kept for or the client has
another one. -/
def drop (s : Threads σ) (client : String) (i : Nat) : Threads σ :=
  if (s.slotAt i).isIdle ∧ s.table.get? client = some i then
    { s with table := s.table.erase client }
  else s

/-- What a move of a thread changes outside of the thread. -/
def moved {α : Type} (s : Threads σ) (client : String) (i : Nat) (m : Move α σ) : Threads σ :=
  let s :=
    { s.put i m.shared with
      line := s.line ++ (m.handed.map (⟨·, client, i⟩)).toList
      trace := m.told.toList ++ s.trace
      service := m.service }
  if m.ends then s.drop client i else s

def atStage (s : Threads σ) (k : Nat) (t : Thread) (stage : Stage) : Threads σ :=
  { s with compilers := s.compilers.set k { t with stage } }

def removerAtStage (s : Threads σ) (k : Nat) (r : Remover) (stage : RemoverStage) : Threads σ :=
  { s with removers := s.removers.set k { r with stage } }

/-- Starts a thread that compiles. -/
def spawn (s : Threads σ) (t : Thread) : Threads σ := { s with compilers := s.compilers ++ [t] }

/-! ### Steps -/

/-- Gives a client a new slot. -/
def addSlot (s : Threads σ) (client : String) : Threads σ :=
  { s with
    slots := s.slots ++ [SharedSlot.empty]
    table := s.table.set client s.slots.length }

/-- The number of the slot of a client, which is given one if it has none. -/
def opened (s : Threads σ) (client : String) : Nat × Threads σ :=
  match s.table.get? client with
  | some i => (i, s)
  | none => (s.slots.length, s.addSlot client)

/-- Asks for a compilation in a slot; the answer is a ticket, which several requests may share. -/
def ask (s : Threads σ) (client : String) (i : Nat) : Nat × Threads σ :=
  let x := { s.slotAt i with removed := false }
  match x.queued with
  | some ticket => (ticket, s.put i x)
  | none =>
    let ticket := s.asked.length
    let s := { s with asked := s.asked ++ [client] }
    if x.running then (ticket, s.put i { x with queued := some ticket })
    else
      let t : Thread := ⟨client, i, false, .starting ticket []⟩
      (ticket, (s.put i { x with running := true }).spawn t)

/-- The first step of a request, up to the compilation that it starts, if it starts one. -/
def submit (s : Threads σ) (client : String) : Nat × Threads σ :=
  let (i, s) := s.opened client
  s.ask client i

/-- The first step of a discard.  Without a slot there is nothing to do. -/
def discard (s : Threads σ) (client : String) : Threads σ :=
  match s.table.get? client with
  | none => s
  | some i =>
    let x := s.slotAt i
    { s.put i x.discarded with removers := s.removers ++ [⟨client, i, x.cell.removal, .waiting⟩] }

/-- A free worker takes what has waited longest. -/
def pick (s : Threads σ) : Threads σ :=
  match s.line with
  | [] => s
  | job :: rest =>
    if s.busy < s.workers then
      { s with line := rest }.spawn ⟨job.client, job.slot, true, .entering job.ticket⟩
    else s

/-- A step of a thread that compiles. -/
def compile (service : Service σ) (s : Threads σ) (k : Nat) : Threads σ :=
  match s.compilers[k]? with
  | none => s
  | some t =>
    let rules := (s.store.rulesOf t.client).merged
    match t.move service s.service s.accepting rules (s.slotAt t.slot) with
    | none => s
    | some m => (s.atStage k t m.stage).moved t.client t.slot m

/-- A step of a discard. -/
def remove (service : Service σ) (s : Threads σ) (k : Nat) : Threads σ :=
  match s.removers[k]? with
  | none => s
  | some r =>
    match r.move service s.service (s.slotAt r.slot) with
    | none => s
    | some m => (s.removerAtStage k r m.stage).moved r.client r.slot m

/-- What can happen next. -/
inductive Action (σ : Type) where
  /-- the rules of a client are changed -/
  | change (c : Store.Change)
  /-- the service is given another state, such as one in which it fails -/
  | alter (f : σ → σ)
  | shutdown
  | submit (client : String)
  | discard (client : String)
  | pick
  /-- a thread that compiles goes on -/
  | compile (thread : Nat)
  /-- a discard goes on -/
  | remove (remover : Nat)

def after (service : Service σ) (s : Threads σ) : Action σ → Threads σ
  | .change c => { s with store := s.store.after c }
  | .alter f => { s with service := f s.service }
  | .shutdown => { s with accepting := false }
  | .submit client => (s.submit client).2
  | .discard client => s.discard client
  | .pick => s.pick
  | .compile thread => s.compile service thread
  | .remove remover => s.remove service remover

/-- The threads after actions in order.  A thread whose turn comes while it cannot go on stays where
it is. -/
def replay (service : Service σ) (s : Threads σ) (actions : List (Action σ)) : Threads σ :=
  actions.foldl (after service) s

end Threads

end ContentBlocker
