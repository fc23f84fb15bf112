import ContentBlocker.Proofs.Compile.Workers
import ContentBlocker.Proofs.Threads.Phases

/-!
# Threads at rest

When every thread waits for a worker, for the service or for another thread, the threads are where a
scheduler is between two operations: `Matches` says so, and `Shows` says it of all clients but one.
What a thread does alone is seen in the cell of its client only.
-/

namespace ContentBlocker

variable {σ α : Type}

/-! ## Cells and corners -/

namespace Cell

/-- The ticket of a compilation that waits for a worker. -/
def waiting? (c : Cell) : Option Nat :=
  match c.running with
  | some (.waiting ticket) => some ticket
  | _ => none

theorem running_of_waiting? (c : Cell) {ticket : Nat} (waiting : c.waiting? = some ticket) :
    c.running = some (.waiting ticket) := by
  unfold waiting? at waiting
  split at waiting
  · rename_i t running
    rw [running, Option.some.inj waiting]
  · cases waiting

/-- The slot of a client with the cell. -/
def shared (c : Cell) : SharedSlot :=
  ⟨c.slot, c.epoch, c.running.isSome, c.queued, c.removed, c.flight?.isSome⟩

/-- The slot of a client whose compilation has ended, as long as its thread has not left. -/
def ending (c : Cell) : SharedSlot := { c.shared with running := true, locked := false }

/-- What the threads of a client with the cell have to do. -/
def corner (c : Cell) (client : String) (i : Nat) : Corner where
  shared := c.shared
  jobs := c.waiting?.toList.map (⟨·, client, i⟩)
  compilers := c.flight?.toList.map fun f => ⟨client, i, true, .calling f⟩
  removers := c.removals.map (⟨client, i, ·, .waiting⟩)

end Cell

/-- The notice is not the end of a discard, which a scheduler tells only of those that waited. -/
def Notice.isSeen : Notice → Bool
  | .discard .. => false
  | _ => true

def seen (trace : List Notice) : List Notice := trace.filter Notice.isSeen

theorem seen_append (a b : List Notice) : seen (a ++ b) = seen a ++ seen b := List.filter_append ..

/-- The scheduler after what a phase did, but for the cell of its client. -/
def Scheduler.followed (s : Scheduler σ) (client : String) (p : Phase α σ) : Scheduler σ :=
  { s with
    line := s.line ++ p.handed.map fun _ => client
    trace := p.told ++ s.trace
    service := p.service }

/-! ## Threads at rest -/

namespace Threads

/-- What a client has is what its cell says. -/
def Fits (u : Threads σ) (client : String) : Option Cell → Prop
  | none => u.table.get? client = none
  | some c => (c.flight? = none → c.removals = []) ∧
      ∃ i, u.table.get? client = some i ∧ u.corner i = c.corner client i

/-- The threads are where the scheduler is, except for those of the client aside. -/
structure Shows (u : Threads σ) (s : Scheduler σ) (aside : Option String) : Prop where
  sound : u.Sound
  keys : s.cells.keys.Nodup
  workers : u.workers = s.workers
  accepting : u.accepting = s.accepting
  asked : u.asked.length = s.nextTicket
  store : u.store = s.store
  service : u.service = s.service
  line : u.line.map Job.client = s.line
  trace : seen u.trace = seen s.trace
  fits : ∀ client, aside ≠ some client → u.Fits client (s.cells.get? client)

/-- The threads are where the scheduler is. -/
def Matches (u : Threads σ) (s : Scheduler σ) : Prop := u.Shows s none ∧ u.busy = s.busy

variable {u w : Threads σ} {s : Scheduler σ} {service : Service σ} {client : String} {i : Nat}

theorem Shows.aside (h : u.Shows s none) : u.Shows s (some client) :=
  ⟨h.sound, h.keys, h.workers, h.accepting, h.asked, h.store, h.service, h.line, h.trace,
    fun other _ => h.fits other (by simp)⟩

theorem Shows.of_present {aside : Option String} (h : u.Shows s aside) (ne : aside ≠ some client)
    {c : Cell} (present : s.cells.get? client = some c) :
    (c.flight? = none → c.removals = []) ∧
      ∃ i, u.table.get? client = some i ∧ u.corner i = c.corner client i := by
  have fits := h.fits client ne
  rwa [present] at fits

theorem Shows.of_absent {aside : Option String} (h : u.Shows s aside) (ne : aside ≠ some client)
    (absent : s.cells.get? client = none) : u.table.get? client = none := by
  have fits := h.fits client ne
  rwa [absent] at fits

theorem Fits.of_corner {c : Option Cell} (fits : u.Fits client c)
    (table : w.table.get? client = u.table.get? client)
    (corner : ∀ j, u.table.get? client = some j → w.corner j = u.corner j) : w.Fits client c := by
  cases c with
  | none => exact table.trans fits
  | some c =>
    obtain ⟨removals, j, there, same⟩ := fits
    exact ⟨removals, j, table.trans there, (corner j there).trans same⟩

/-- The threads of other clients do not notice what happens in a corner. -/
theorem Fits.apart {other : String} {c : Option Cell} (fits : u.Fits other c) (sound : u.Sound)
    (home : u.table.get? client = some i) (ne : other ≠ client)
    (table : w.table.get? other = u.table.get? other)
    (corners : ∀ j, j ≠ i → w.corner j = u.corner j) : w.Fits other c := by
  refine fits.of_corner table fun j there => corners j ?_
  rintro rfl
  exact ne (sound.apart home there)

/-! ## Changed corners -/

theorem corner_put (here : i < u.slots.length) (x : SharedSlot) :
    (u.put i x).corner i = { u.corner i with shared := x } ∧
      ∀ j, j ≠ i → (u.put i x).corner j = u.corner j := by
  constructor
  · exact Corner.ext ((slotAt_put u i here i).trans (if_pos rfl)) rfl rfl rfl
  · intro j apart
    exact Corner.ext ((slotAt_put u i here j).trans (if_neg (Ne.symm apart))) rfl rfl rfl

theorem corner_spawn (u : Threads σ) (t : Thread) (busy : t.stage.isOver = false) :
    (u.spawn t).corner t.slot =
        { u.corner t.slot with compilers := (u.corner t.slot).compilers ++ [t] } ∧
      ∀ j, j ≠ t.slot → (u.spawn t).corner j = u.corner j := by
  constructor
  · refine Corner.ext rfl rfl ((List.filter_append ..).trans ?_) rfl
    simp [corner, busy]
  · intro j apart
    refine Corner.ext rfl rfl ((List.filter_append ..).trans ?_) rfl
    simp [corner, Ne.symm apart]

/-- What is changed in the corner of the client aside does not matter. -/
theorem Shows.changed (h : u.Shows s (some client)) (home : u.table.get? client = some i)
    (same : w = { u with slots := w.slots, compilers := w.compilers, removers := w.removers })
    (sound : w.Sound) (apart : ∀ j, j ≠ i → w.corner j = u.corner j) :
    w.Shows s (some client) where
  sound := sound
  keys := h.keys
  workers := (congrArg Threads.workers same).trans h.workers
  accepting := (congrArg Threads.accepting same).trans h.accepting
  asked := (congrArg (·.asked.length) same).trans h.asked
  store := (congrArg Threads.store same).trans h.store
  service := (congrArg Threads.service same).trans h.service
  line := (congrArg (·.line.map Job.client) same).trans h.line
  trace := (congrArg (seen ·.trace) same).trans h.trace
  fits other ne :=
    (h.fits other ne).apart h.sound home (fun same => ne (congrArg some same.symm))
      (congrArg (·.table.get? other) same) apart

/-- Threads that show a scheduler tell no more of discards than it does. -/
theorem Shows.retold {aside : Option String} (h : u.Shows s aside) (trace : List Notice)
    (same : seen trace = seen s.trace) : u.Shows { s with trace } aside :=
  ⟨h.sound, h.keys, h.workers, h.accepting, h.asked, h.store, h.service, h.line,
    h.trace.trans same.symm, h.fits⟩

section Follows

variable {p : Phase α σ}

theorem Follows.fits (follows : u.Follows client i p w) (sound : u.Sound)
    (home : u.table.get? client = some i) {other : String} (ne : other ≠ client) {c : Option Cell}
    (fits : u.Fits other c) : w.Fits other c := by
  refine fits.apart sound home ne ?_ follows.apart
  rw [follows.table]
  split
  · rw [Table.get?_erase, if_neg (Ne.symm ne)]
  · rfl

theorem Follows.home (follows : u.Follows client i p w) (home : u.table.get? client = some i)
    (kept : p.dropped = false) : w.table.get? client = some i := by
  rw [follows.table, kept]
  exact home

theorem Shows.followed (h : u.Shows s (some client)) (home : u.table.get? client = some i)
    (sound : w.Sound) (follows : u.Follows client i p w) :
    w.Shows (s.followed client p) (some client) where
  sound := sound
  keys := h.keys
  workers := follows.workers.trans h.workers
  accepting := follows.accepting.trans h.accepting
  asked := (congrArg List.length follows.asked).trans h.asked
  store := follows.store.trans h.store
  service := follows.service
  line := by
    rw [follows.line, List.map_append, h.line, List.map_map]
    rfl
  trace := by
    rw [follows.trace, seen_append, h.trace]
    exact (seen_append ..).symm
  fits other ne :=
    follows.fits h.sound home (fun same => ne (congrArg some same.symm)) (h.fits other ne)

/-- A slot is dropped just if its cell is. -/
theorem Follows.fits_kept (follows : u.Follows client i p w) (home : u.table.get? client = some i)
    {c : Cell} (corner : w.corner i = c.corner client i) (dropped : p.dropped = c.isIdle)
    (removals : c.flight? = none → c.removals = []) : w.Fits client c.kept := by
  unfold Cell.kept
  split
  · rename_i idle
    change w.table.get? client = none
    rw [follows.table, if_pos (dropped.trans idle), Table.get?_erase, if_pos rfl]
  · rename_i used
    refine ⟨removals, i, ?_, corner⟩
    rw [follows.table, if_neg (dropped ▸ used), home]

theorem Shows.keep (h : u.Shows s (some client)) {c : Cell} (fits : u.Fits client c.kept) :
    u.Shows (s.keep client c) none where
  sound := h.sound
  keys := Scheduler.nodup_keep client c h.keys
  workers := h.workers
  accepting := h.accepting
  asked := h.asked
  store := h.store
  service := h.service
  line := h.line
  trace := h.trace
  fits other _ := by
    have kept : (s.keep client c).cells.get? other =
        if other = client then c.kept else s.cells.get? other := by
      have view := congrArg (Scheduler.View.cells · other) (Scheduler.view_keep s client c)
      exact view.trans (Function.update_apply ..)
    rw [kept]
    split
    · rename_i here
      exact here ▸ fits
    · rename_i apart
      exact h.fits other fun same => apart (Option.some.inj same).symm

end Follows

/-- The cell of the client aside is changed in the same way as its corner. -/
theorem Shows.set (h : u.Shows s (some client)) (home : u.table.get? client = some i) {c : Cell}
    (corner : u.corner i = c.corner client i) (used : c.isIdle = false)
    (removals : c.flight? = none → c.removals = [])
    (flight : c.flight? = (s.cellOf client).flight?) (busy : u.busy = s.busy) :
    u.Matches { s with cells := s.cells.set client c } := by
  have kept : c.kept = some c := by rw [Cell.kept, if_neg (by simp [used])]
  have fits : u.Fits client (some c) := ⟨removals, i, home, corner⟩
  rw [← Scheduler.keep_of_used used]
  refine ⟨h.keep (kept ▸ fits), ?_⟩
  have counted := Scheduler.busy_keep client c h.keys
  rw [flight] at counted
  omega

end Threads

end ContentBlocker
