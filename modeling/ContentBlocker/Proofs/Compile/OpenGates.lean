import ContentBlocker.Proofs.Compile.Direct
import ContentBlocker.Proofs.Compile.Slots
import ContentBlocker.Proofs.Compile.Workers

/-!
# Compiling at once with a scheduler

To compile at once is to use a scheduler whose gates are all open and to wait for each answer:
`scheduler_compiles_at_once` says so of every run of changes, requests and discards.  The scheduler
then has nothing under way between two operations, and a request takes the rules, calls the service
and fills the slot before the next operation.
-/

namespace ContentBlocker

variable {σ : Type}

/-! ## Cells at rest -/

/-- A slot that says nothing is the empty one. -/
theorem Slot.Sound.eq_empty {slot : Slot} (h : slot.Sound) (vacant : slot.isVacant = true) :
    slot = .empty := by
  simp only [Slot.isVacant, Bool.and_eq_true, decide_eq_true_eq] at vacant
  obtain ⟨state, artifact, lastError⟩ := slot
  obtain ⟨artifact, lastError⟩ := h.uninitialized vacant.1
  simp_all [Slot.empty]

namespace Cell

variable {c : Cell}

/-- Dropping a cell that is not marked as removed loses nothing that its slot says. -/
theorem slot_kept (sound : c.slot.Sound) (removed : c.removed = false) :
    (c.kept.getD .empty).slot = c.slot := by
  unfold kept
  split
  · rename_i idle
    simp only [isIdle, Bool.and_eq_true, Bool.or_eq_true, removed, Bool.false_eq_true,
      false_or] at idle
    exact (sound.eq_empty idle.2).symm
  · rfl

/-- A cell of which nothing runs, and nothing of which is left to do. -/
structure Rests (c : Cell) : Prop where
  slot : c.slot.Sound
  state : c.slot.state ≠ .compiling
  running : c.running = none
  queued : c.queued = none
  removed : c.removed = false
  removals : c.removals = []

end Cell

/-! ## Steps -/

namespace Scheduler

/-- All gates are open, the pool takes work, and there is a worker. -/
structure Open (s : Scheduler σ) : Prop where
  resting : s.Resting
  sound : s.view.Sound
  gates : s.held = []
  accepting : s.accepting = true
  staff : 0 < s.workers

section Steps

variable {s : Scheduler σ} {client : String}

theorem Open.rests (h : s.Open) (client : String) : (s.cellOf client).Rests := by
  have running := h.resting.idle_of_no_gates h.staff h.gates client
  have sound := h.sound.cellOf client
  have flight : (s.cellOf client).flight? = none := Cell.flight?_eq_none.2 (by simp [running])
  obtain ⟨state, removals⟩ := sound.grounded flight
  exact ⟨sound.slot, state, running, sound.queued running, h.sound.not_removed running, removals⟩

theorem Open.busy (h : s.Open) : s.busy = 0 := by
  by_contra busy
  obtain ⟨client, f, flight⟩ := exists_flight_of_busy h.resting.1.keys (Nat.pos_of_ne_zero busy)
  have idle := (h.rests client).running
  rw [Cell.running_of_flight _ flight] at idle
  cases idle

theorem Open.line (h : s.Open) : s.line = [] := by
  have busy := h.busy
  have staff := h.staff
  exact h.resting.2.resolve_right (by omega)

theorem dispatch_of_no_line (service : Service σ) (fuel : Nat) (line : s.line = []) :
    dispatch service fuel s = s := by
  cases fuel with
  | zero => rfl
  | succ fuel =>
    rw [dispatch]
    split
    · rfl
    · rename_i some
      rw [line] at some
      cases some

/-- The scheduler with a ticket that has a worker next. -/
def waiting (s : Scheduler σ) (client : String) : Scheduler σ :=
  { s with
    nextTicket := s.nextTicket + 1
    cells := s.cells.set client { s.cellOf client with running := some (.waiting s.nextTicket) } }

theorem cellOf_waiting (s : Scheduler σ) (client : String) :
    (s.waiting client).cellOf client =
      { s.cellOf client with running := some (.waiting s.nextTicket) } := by
  simp [waiting, cellOf, Table.get?_set]

theorem cellOf_waiting_of_ne (s : Scheduler σ) {other : String} (ne : client ≠ other) :
    (s.waiting client).cellOf other = s.cellOf other := by
  simp [waiting, cellOf, Table.get?_set, ne]

theorem line_takeOff (service : Service σ) {ticket : Nat}
    (queued : (s.cellOf client).queued = none) :
    (s.takeOff service client ticket).line = s.line := by
  have finished (s : Scheduler σ) {c : Cell} (queued : c.queued = none) :
      (s.finish client c).line = s.line := by
    rw [finish_line]
    simp [Cell.next, queued]
  unfold Scheduler.takeOff
  dsimp only
  split
  · exact finished (s.note _) queued
  · split
    · rfl
    · obtain ⟨trace, state, answer, eq⟩ := exists_land
        { s with
          cells := s.cells.set client ((s.cellOf client).takeOff
            ⟨ticket, (s.cellOf client).epoch, .ofRules (s.store.rulesOf client).merged⟩) }
        service client ⟨ticket, (s.cellOf client).epoch, .ofRules (s.store.rulesOf client).merged⟩
      rw [eq]
      refine finished _ ?_
      rw [Cell.landed_queued]
      simpa [cellOf, Table.get?_set, Cell.takeOff] using queued

/-- A request is given a worker at once. -/
theorem Open.submit_eq (h : s.Open) (service : Service σ) (client : String) :
    s.submit service client =
      (s.nextTicket, (s.waiting client).takeOff service client s.nextTicket) := by
  have rests := h.rests client
  let started : Scheduler σ :=
    { s.waiting client with line := [client] }
  have start : { s with nextTicket := s.nextTicket + 1 }.start client
      { s.cellOf client with removed := false } s.nextTicket = started := by
    rw [Scheduler.start, if_pos h.accepting, keep_of_used (by rfl)]
    simp only [started, waiting, ← rests.removed, h.line, List.nil_append]
  have free : started.busy < started.workers := by
    have busy := busy_keep client
      { s.cellOf client with running := some (.waiting s.nextTicket) } h.resting.1.keys
    rw [keep_of_used (by rfl), h.busy, Cell.flight?_eq_none.2 (by simp [rests.running])] at busy
    have staff : 0 < started.workers := h.staff
    exact Nat.lt_of_le_of_lt (Nat.le_of_eq busy) staff
  have popped : { started with line := [] } = s.waiting client := by
    simp only [started, waiting, ← h.line]
  rw [submit_of_idle s service client rests.queued rests.running, start, settle, dispatch]
  simp only [show started.line = [client] from rfl, free, if_true, popped, cellOf_waiting]
  rw [dispatch_of_no_line]
  rw [line_takeOff service (by rw [cellOf_waiting]; exact rests.queued)]
  exact h.line

/-- What a scheduler and a compiler both know. -/
structure Mirrors (s : Scheduler σ) (c : Compiler σ) : Prop where
  service : s.service = c.service
  slots : ∀ client, s.slotOf client = c.slotOf client

theorem service_finish (s : Scheduler σ) (client : String) (c : Cell) :
    (s.finish client c).service = s.service := by
  unfold finish start
  split
  · split <;> rfl
  · rfl

theorem service_land (service : Service σ) {f : Flight}
    (removals : (s.cellOf client).removals = []) :
    (s.land service client f).service =
      (service.compile (listIdentifier client) f.conversion.document s.service).2 := by
  unfold land
  dsimp only
  rw [removals, service_finish]
  rfl

theorem slotOf_of_view {v : View} {cell : Cell} {notices : List Notice} {fresh : Nat}
    (view : s.view = v.turned client notices fresh cell) (slot : cell.slot.Sound)
    (removed : cell.removed = false) (other : String) :
    s.slotOf other = if client = other then cell.slot else (v.cellOf other).slot := by
  rw [slotOf, ← view_cellOf, view, View.cellOf_turned]
  by_cases here : other = client
  · rw [if_pos here, if_pos here.symm, Cell.slot_kept slot removed]
  · rw [if_neg here, if_neg (Ne.symm here)]

theorem outcome?_of_latest {ticket : Nat} {outcome : Outcome} (before : List Notice)
    (trace : s.trace = .complete ticket outcome :: before) :
    s.outcome? ticket = some outcome := by
  simp [outcome?, trace]

variable {c : Compiler σ}

/-- A request without rules changes nothing. -/
theorem Open.skips (h : s.Open) (service : Service σ) (mirrors : s.Mirrors c)
    (none : (s.store.rulesOf client).merged = []) :
    (s.submit service client).2.Mirrors c ∧
      (s.submit service client).2.outcome? s.nextTicket = some (.ok (.ofSkipped client)) := by
  have rests := h.rests client
  let noted := (s.waiting client).note (.complete s.nextTicket (.ok (.ofSkipped client)))
  let d : Cell := { s.cellOf client with running := some (.waiting s.nextTicket) }
  have served : (s.submit service client).2 = noted.finish client d := by
    rw [h.submit_eq, takeOff, if_pos (by simp [waiting, none]), cellOf_waiting]
  have view := view_finish noted client d
  rw [served]
  refine ⟨⟨?_, fun other => ?_⟩, ?_⟩
  · rw [service_finish]
    exact mirrors.service
  · rw [slotOf_of_view view rests.slot rests.removed, ← mirrors.slots]
    split
    · rename_i here
      exact here ▸ rfl
    · rename_i apart
      exact congrArg Cell.slot (cellOf_waiting_of_ne s apart)
  · refine outcome?_of_latest s.trace ?_
    have trace := congrArg View.trace view
    rwa [show d.queued = .none from rests.queued] at trace

/-- The slot that a compilation leaves is the one that its answer makes of the slot before. -/
theorem slot_answered {d : Cell} {f : Flight} (epoch : f.epoch = d.epoch)
    (answer : Except Report Artifact) :
    ((d.takeOff f).landed f answer).slot = Compiler.answeredSlot d.slot answer ∧
      ((d.takeOff f).landed f answer).slot.Sound := by
  cases answer with
  | ok a =>
    rw [Cell.landed_ok (c := d.takeOff f) epoch]
    exact ⟨rfl, Slot.sound_succeed a⟩
  | error r =>
    rw [Cell.landed_error (c := d.takeOff f) epoch]
    exact ⟨rfl, Slot.sound_fail _ _⟩

theorem outcome_answered {d : Cell} {f : Flight} (epoch : f.epoch = d.epoch)
    (answer : Except Report Artifact) :
    (d.takeOff f).outcome client f answer =
      match answer with
      | .ok a => .ok (.ofConversion client f.conversion a)
      | .error r => .error (.compilation client (compilationText r)) := by
  cases answer with
  | ok a => simp [Cell.outcome, Cell.takeOff, epoch, Summary.ofConversion]
  | error r => rfl

/-- A request with rules is a compilation at once. -/
theorem Open.lands (h : s.Open) (service : Service σ) (mirrors : s.Mirrors c)
    (some : (s.store.rulesOf client).merged ≠ []) :
    let compiled := c.compile service client (s.store.rulesOf client).merged
    (s.submit service client).2.Mirrors compiled.2 ∧
      (s.submit service client).2.outcome? s.nextTicket = .some compiled.1 := by
  have rests := h.rests client
  let d : Cell := { s.cellOf client with running := .some (.waiting s.nextTicket) }
  let f : Flight := ⟨s.nextTicket, d.epoch, .ofRules (s.store.rulesOf client).merged⟩
  let flown : Scheduler σ :=
    { s.waiting client with cells := (s.waiting client).cells.set client (d.takeOff f) }
  have cell : flown.cellOf client = d.takeOff f := by simp [flown, cellOf, Table.get?_set]
  have served : (s.submit service client).2 = flown.land service client f := by
    have gates : (s.waiting client).held.contains client = false := by simp [waiting, h.gates]
    rw [h.submit_eq, takeOff, if_neg (by simpa [waiting] using some), cellOf_waiting]
    simp only [gates, Bool.false_eq_true, if_false]
    rfl
  have asks : service.compile (listIdentifier client) f.conversion.document flown.service =
      c.answer service client (s.store.rulesOf client).merged :=
    congrArg (service.compile _ _) mirrors.service
  have removals : (flown.cellOf client).removals = [] := by
    rw [cell]
    exact rests.removals
  have view := view_land flown service client f
  dsimp only at view
  rw [cell, asks] at view
  let answer := (c.answer service client (s.store.rulesOf client).merged).1
  obtain ⟨slot, sound⟩ := slot_answered (d := d) (f := f) rfl answer
  intro compiled
  rw [served]
  refine ⟨⟨?_, fun other => ?_⟩, ?_⟩
  · rw [service_land service removals, asks, c.compile_snd service client some]
  · have removed : (((d.takeOff f).landed f answer).next flown.view.accepting).removed = false := by
      rw [Cell.landed_eq]
      exact rests.removed
    rw [slotOf_of_view view sound removed, c.slotOf_compile service client some, ← mirrors.slots]
    split
    · exact slot
    · rename_i apart
      rw [← mirrors.slots, view_cellOf]
      have same : flown.cellOf other = (s.waiting client).cellOf other := by
        simp [flown, cellOf, Table.get?_set, apart]
      rw [same, cellOf_waiting_of_ne s apart]
      rfl
  · refine outcome?_of_latest (.compile client f.conversion.document answer.isOk :: s.trace) ?_
    have trace := congrArg View.trace view
    have queued : (d.takeOff f).queued = none := rests.queued
    have waits : (d.takeOff f).removals = [] := rests.removals
    rw [queued, waits] at trace
    have told : (d.takeOff f).outcome client f answer = compiled.1 :=
      (outcome_answered rfl answer).trans (c.compile_fst service client some).symm
    rw [told] at trace
    exact trace

/-- A discard is done at once. -/
theorem Open.discards (h : s.Open) (service : Service σ) (mirrors : s.Mirrors c)
    (client : String) :
    (s.discard service client).2.Mirrors (c.discard service client).2 ∧
      (s.discard service client).1 = some (c.discard service client).1 := by
  have rests := h.rests client
  have slot := mirrors.slots client
  rw [slotOf] at slot
  have had : (c.discard service client).1 = (s.cellOf client).slot.artifact.isSome := by
    rw [slot, Compiler.discard]
    split <;> simp_all
  have stored : (s.cellOf client).removal.maybeStored = (s.cellOf client).slot.artifact.isSome := by
    simp [Cell.removal, rests.state]
  rw [had]
  cases there : s.cells.get? client with
  | none =>
    have empty : (s.cellOf client) = .empty := by
      rw [cellOf, there]
      rfl
    rw [discard_of_absent s service client there, empty]
    refine ⟨⟨?_, fun other => ?_⟩, rfl⟩
    · rw [c.discard_snd, ← slot, empty]
      exact mirrors.service
    · rw [c.slotOf_discard]
      split
      · rename_i here
        rw [← here, slotOf, empty]
        rfl
      · exact mirrors.slots other
  | some cell =>
    have cellOf : s.cellOf client = cell := by
      rw [Scheduler.cellOf, there]
      rfl
    have flight : cell.flight? = none := by
      rw [← cellOf, Cell.flight?_eq_none]
      simp [rests.running]
    have done : s.discard service client = (some cell.slot.artifact.isSome,
        (s.issue service client cell.removal).keep client cell.discarded) := by
      simp [discard, there, flight, Cell.removal]
    rw [done]
    refine ⟨⟨?_, fun other => ?_⟩, by rw [cellOf]⟩
    · rw [c.discard_snd, ← slot, ← stored, cellOf, ← mirrors.service]
      change (s.issue service client cell.removal).service = _
      unfold issue
      split <;> rfl
    · have issued : (s.issue service client cell.removal).cellOf other = s.cellOf other := by
        unfold issue
        split <;> rfl
      rw [c.slotOf_discard, slotOf, cellOf_keep, issued]
      by_cases here : other = client
      · have idle : cell.discarded.isIdle = true := by
          simp [Cell.isIdle, Cell.discarded, ← cellOf, rests.running, rests.queued]
        rw [if_pos here, if_pos here.symm, Cell.kept, if_pos idle]
        rfl
      · rw [if_neg here, if_neg (Ne.symm here), ← mirrors.slots]
        rfl

/-- A request is a compilation at once. -/
theorem Open.submits (h : s.Open) (service : Service σ) (mirrors : s.Mirrors c)
    (client : String) :
    let compiled := c.compile service client (s.store.rulesOf client).merged
    (s.submit service client).2.Mirrors compiled.2 ∧
      (s.submit service client).2.outcome? s.nextTicket = some compiled.1 := by
  by_cases none : (s.store.rulesOf client).merged = []
  · rw [none, c.compile_nil]
    exact h.skips service mirrors none
  · exact h.lands service mirrors none

end Steps

/-! ## Runs -/

/-- What can be asked of a scheduler by one caller after the other, with all gates open. -/
def Event.isDirect : Event σ → Bool
  | .change _ | .submit _ | .discard _ | .alter _ => true
  | _ => false

theorem held_takeOff (s : Scheduler σ) (service : Service σ) (client : String) (ticket : Nat) :
    (s.takeOff service client ticket).held = s.held := by
  unfold takeOff
  dsimp only
  split
  · exact finish_held ..
  · split
    · rfl
    · obtain ⟨trace, state, answer, eq⟩ := exists_land
        { s with
          cells := s.cells.set client ((s.cellOf client).takeOff
            ⟨ticket, (s.cellOf client).epoch, .ofRules (s.store.rulesOf client).merged⟩) }
        service client ⟨ticket, (s.cellOf client).epoch, .ofRules (s.store.rulesOf client).merged⟩
      rw [eq]
      exact finish_held ..

theorem Open.after {s : Scheduler σ} (h : s.Open) (service : Service σ) {e : Event σ}
    (direct : e.isDirect = true) : (s.after service e).Open where
  resting := h.resting.after e
  sound := by
    obtain ⟨v, opens, works⟩ := opens_after s service e
    exact works.preserves View.Step.sound (opens.sound h.sound)
  gates := by
    cases e with
    | submit client =>
      rw [Scheduler.after, h.submit_eq, held_takeOff]
      exact h.gates
    | discard client =>
      rw [Scheduler.after, ← h.gates]
      unfold discard keep issue
      split
      · rfl
      · dsimp only
        split
        · rfl
        · split <;> rfl
    | hold | release | releaseOnce => cases direct
    | _ => exact h.gates
  accepting := by
    rw [accepting_after]
    cases e with
    | shutdown => cases direct
    | _ => exact h.accepting
  staff := Nat.lt_of_lt_of_eq h.staff (workers_after e).symm

theorem open_fresh (service : Service σ) (limits : Limits) (state : σ) {workers : Nat}
    (staff : 0 < workers) : (fresh workers limits state).Open where
  resting := resting_replay service workers limits state []
  sound := sound_replay service workers limits state []
  gates := rfl
  accepting := rfl
  staff := staff

/-- A store and a compiler after an event. -/
def atOnce (service : Service σ) (d : Store × Compiler σ) : Event σ → Store × Compiler σ
  | .change c => (d.1.after c, d.2)
  | .submit client => (d.1, (d.2.compile service client (d.1.rulesOf client).merged).2)
  | .discard client => (d.1, (d.2.discard service client).2)
  | .alter f => (d.1, { d.2 with service := f d.2.service })
  | _ => d

theorem Open.step {s : Scheduler σ} {d : Store × Compiler σ} (h : s.Open) (service : Service σ)
    (store : s.store = d.1) (mirrors : s.Mirrors d.2) {e : Event σ} (direct : e.isDirect = true) :
    (s.after service e).Open ∧ (s.after service e).store = (atOnce service d e).1 ∧
      (s.after service e).Mirrors (atOnce service d e).2 := by
  refine ⟨h.after service direct, ?_, ?_⟩
  · rw [store_after, store]
    cases e <;> rfl
  · cases e with
    | change c => exact ⟨mirrors.service, mirrors.slots⟩
    | submit client =>
      rw [atOnce, ← store]
      exact (h.submits service mirrors client).1
    | discard client => exact (h.discards service mirrors client).1
    | alter f => exact ⟨congrArg f mirrors.service, mirrors.slots⟩
    | hold | release | releaseOnce | shutdown => cases direct

/-- Whoever waits for each answer and opens all gates cannot tell a scheduler from a compiler: after
any run the slots are the same, the service is in the same state, and the next request or discard
has the same answer. -/
theorem scheduler_compiles_at_once (service : Service σ) (workers : Nat) (staff : 0 < workers)
    (limits : Limits) (state : σ) (events : List (Event σ))
    (direct : ∀ e ∈ events, e.isDirect = true) (client : String) :
    let s := (fresh workers limits state).replay service events
    let d := events.foldl (atOnce service) (.empty limits, ⟨[], state⟩)
    s.store = d.1 ∧ s.Mirrors d.2 ∧
      (s.submit service client).2.outcome? (s.submit service client).1 =
        some (d.2.compile service client (d.1.rulesOf client).merged).1 ∧
      (s.discard service client).1 = some (d.2.discard service client).1 := by
  intro s d
  have run : s.Open ∧ s.store = d.1 ∧ s.Mirrors d.2 := by
    induction events using List.reverseRecOn with
    | nil => exact ⟨open_fresh service limits state staff, rfl, ⟨rfl, fun _ => rfl⟩⟩
    | append_singleton events e ih =>
      obtain ⟨opened, store, mirrors⟩ := ih fun e mem => direct e (List.mem_append_left _ mem)
      have last := opened.step service store mirrors (direct e (by simp))
      simp only [s, d, replay_append, List.foldl_append]
      exact last
  obtain ⟨opened, store, mirrors⟩ := run
  have submitted := (opened.submits service mirrors client).2
  rw [store] at submitted
  rw [show (s.submit service client).1 = s.nextTicket by rw [opened.submit_eq]]
  exact ⟨store, mirrors, submitted, (opened.discards service mirrors client).2⟩

end Scheduler

end ContentBlocker
