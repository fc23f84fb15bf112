import ContentBlocker.Compile.Scheduler

/-!
# Turns of a cell

Whatever happens to a client's compilations is a turn of its cell: a request, a step of the workers,
or a discard.  `Turn` lists all of them, with the notices that each one tells and the tickets that
it hands out.  The proofs about schedulers are proofs about turns: `Turn.sound` says what every turn
keeps true of a cell, and `Turn.conserves` that a turn neither loses a ticket nor answers one twice.
-/

namespace ContentBlocker

/-! ## Parts of turns -/

namespace Notice

/-- What is told when the workers take no new work and a ticket is next. -/
def refusal (accepting : Bool) : Option Nat → List Notice
  | some ticket => if accepting then [] else [.complete ticket (.error (.defect .poolClosed))]
  | none => []

/-- What is told when the service is asked to remove a list that it may have. -/
def issue (client : String) (r : Removal) : List Notice :=
  if r.maybeStored then [.remove client] else []

/-- What is told when discards that waited are done, latest first. -/
def removals (client : String) (rs : List Removal) : List Notice :=
  rs.reverse.flatMap fun r => .discard client r.hadArtifact :: issue client r

theorem removals_cons (client : String) (r : Removal) (rs : List Removal) :
    removals client (r :: rs) =
      removals client rs ++ .discard client r.hadArtifact :: issue client r := by
  simp [removals]

end Notice

namespace Cell

/-- What is kept of a cell: nothing if it is idle. -/
def kept (c : Cell) : Option Cell := if c.isIdle then none else some c

/-- The cell after the compilation that ran has ended and the queued one is next. -/
def next (accepting : Bool) (c : Cell) : Cell :=
  { c with running := if accepting then c.queued.map .waiting else none, queued := none }

/-- The cell after a flight has landed and the discards that waited for it are done. -/
def landed (c : Cell) (f : Flight) (answer : Except Report Artifact) : Cell :=
  { c.land f answer with removals := [] }

/-- The tickets that are still to be answered. -/
def tickets (c : Cell) : List Nat := (c.running.map Running.ticket).toList ++ c.queued.toList

variable (c : Cell) (f : Flight) (answer : Except Report Artifact)

theorem landed_eq :
    c.landed f answer = { c with slot := (c.land f answer).slot, removals := [] } := by
  unfold landed land
  split
  · cases answer <;> rfl
  · rfl

variable {f} in
theorem running_of_flight (flight : c.flight? = some f) : c.running = some (.flying f) := by
  unfold flight? at flight
  split at flight
  · rename_i g running
    rw [running, Option.some.inj flight]
  · cases flight

theorem landed_queued : (c.landed f answer).queued = c.queued := by rw [landed_eq]

variable {c}

variable {f} in
/-- A flight of the epoch that the cell is in gives the client its list. -/
theorem landed_ok (epoch : f.epoch = c.epoch) (a : Artifact) :
    c.landed f (.ok a) = { c with slot := .succeed a, removals := [] } := by
  rw [landed, land, if_pos epoch.symm]

variable {f} in
theorem landed_error (epoch : f.epoch = c.epoch) (r : Report) :
    c.landed f (.error r) = { c with slot := c.slot.fail (compilationText r), removals := [] } := by
  simp only [landed, land, epoch, if_true]

variable {f} in
/-- What a flight of an earlier epoch finds does not count. -/
theorem landed_outdated (epoch : f.epoch ≠ c.epoch) :
    c.landed f answer = { c with removals := [] } := by
  unfold landed land
  rw [if_neg epoch.symm]

theorem flight?_eq_none : c.flight? = none ↔ ∀ f, c.running ≠ some (.flying f) := by
  unfold flight?
  split
  · rename_i f running
    simp [running]
  · rename_i h
    simpa using h

theorem flight?_of_waiting {ticket : Nat} (running : c.running = some (.waiting ticket)) :
    c.flight? = none := by
  simp [flight?_eq_none, running]

theorem flight?_next (accepting : Bool) : (c.next accepting).flight? = none := by
  rw [flight?_eq_none, next]
  intro f
  cases accepting <;> cases c.queued <;> simp

theorem running_kept : (c.kept.getD .empty).running = c.running := by
  unfold kept
  split
  · rename_i idle
    simp only [isIdle, Bool.and_eq_true, Option.isNone_iff_eq_none] at idle
    exact idle.1.1.symm
  · rfl

theorem queued_kept : (c.kept.getD .empty).queued = c.queued := by
  unfold kept
  split
  · rename_i idle
    simp only [isIdle, Bool.and_eq_true, Option.isNone_iff_eq_none] at idle
    exact idle.1.2.symm
  · rfl

end Cell

/-! ## Turns -/

/-- Why a cell turns. -/
inductive Cause where
  | request
  | work
  | discard
deriving DecidableEq, Repr

variable {σ : Type}

/-- `Turn service client accepting rules fresh c cause notices fresh' c'`: for a cause, the cell `c`
of a client whose merged rules are `rules` becomes `c'`.  The notices are told, latest first, and
the next ticket is `fresh` before and `fresh'` after. -/
inductive Turn (service : Service σ) (client : String) (accepting : Bool) (rules : List Rule)
    (fresh : Nat) (c : Cell) : Cause → List Notice → Nat → Cell → Prop
  /-- the request shares the queued compilation -/
  | share {ticket : Nat} (queued : c.queued = some ticket) :
    Turn service client accepting rules fresh c .request [] fresh { c with removed := false }
  /-- the request queues a compilation behind the one that runs -/
  | queue (queued : c.queued = none) (running : c.running ≠ none) :
    Turn service client accepting rules fresh c .request [] (fresh + 1)
      { c with removed := false, queued := some fresh }
  /-- the request gives a compilation to the workers -/
  | start (queued : c.queued = none) (running : c.running = none) :
    Turn service client accepting rules fresh c .request (Notice.refusal accepting (some fresh))
      (fresh + 1) ({ c with removed := false, queued := some fresh }.next accepting)
  /-- a compilation finds no rules -/
  | skip {ticket : Nat} (running : c.running = some (.waiting ticket)) (empty : rules = []) :
    Turn service client accepting rules fresh c .work
      (Notice.refusal accepting c.queued ++ [.complete ticket (.ok (.ofSkipped client))]) fresh
      (c.next accepting)
  /-- a compilation takes the rules -/
  | takeOff {ticket : Nat} (running : c.running = some (.waiting ticket)) (some : rules ≠ []) :
    Turn service client accepting rules fresh c .work [] fresh
      (c.takeOff ⟨ticket, c.epoch, .ofRules rules⟩)
  /-- the service answers a compilation -/
  | land {f : Flight} {answer : Except Report Artifact} (state : σ)
    (running : c.running = some (.flying f))
    (answered : (service.compile (listIdentifier client) f.conversion.document state).1 = answer) :
    Turn service client accepting rules fresh c .work
      (Notice.refusal accepting c.queued ++
        (Notice.removals client c.removals ++
          [.complete f.ticket (c.outcome client f answer),
            .compile client f.conversion.document answer.isOk])) fresh
      ((c.landed f answer).next accepting)
  /-- a discard waits for the compilation at the service -/
  | discardLater {f : Flight} (running : c.running = some (.flying f)) :
    Turn service client accepting rules fresh c .discard [] fresh
      { c.discarded with removals := c.removals ++ [c.removal] }
  /-- a discard is done at once -/
  | discardNow (running : c.flight? = none) :
    Turn service client accepting rules fresh c .discard (Notice.issue client c.removal) fresh
      c.discarded

end ContentBlocker
