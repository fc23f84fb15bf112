import ContentBlocker.Proofs.Compile.View

/-!
# The table of slots

What a slot says agrees with the compilation that runs for its client: `Cell.Sound` collects the
clauses, `Turn.sound` proves that every turn keeps them, and `sound_replay` that they hold in every
run.  A cell that is not sound to keep is dropped, so that at rest exactly the clients with a list
or a failure have one.
-/

namespace ContentBlocker

/-! ## Sound slots -/

/-- The state of a slot tells what it holds. -/
structure Slot.Sound (s : Slot) : Prop where
  compiled : s.state = .compiled → s.artifact.isSome ∧ s.lastError = none
  failed : s.state = .failed → s.lastError.isSome
  uninitialized : s.state = .uninitialized → s.artifact = none ∧ s.lastError = none

namespace Slot

theorem sound_empty : empty.Sound := by
  constructor <;> simp [empty]

theorem sound_succeed (a : Artifact) : (succeed a).Sound := by
  constructor <;> simp [succeed]

theorem sound_fail (s : Slot) (text : Text) : (s.fail text).Sound := by
  constructor <;> simp [fail]

theorem sound_compiling (s : Slot) : { s with state := .compiling }.Sound := by
  constructor <;> simp

end Slot

/-! ## Sound cells -/

namespace Cell

/-- The flight started in the epoch that the cell is in; no discard waits for it. -/
def Current (c : Cell) (f : Flight) : Prop :=
  f.epoch = c.epoch ∧ c.slot.state = .compiling ∧ c.removals = []

/-- The client was discarded since the flight started; a discard that waits for it will remove what
it leaves in the service. -/
def Outdated (c : Cell) (f : Flight) : Prop :=
  f.epoch < c.epoch ∧ c.slot = .empty ∧ ∃ r ∈ c.removals, r.maybeStored

structure Sound (c : Cell) : Prop where
  slot : c.slot.Sound
  queued : c.running = none → c.queued = none
  grounded : c.flight? = none → c.slot.state ≠ .compiling ∧ c.removals = []
  aloft : ∀ f, c.running = some (.flying f) → c.Current f ∨ c.Outdated f

theorem sound_empty : empty.Sound where
  slot := Slot.sound_empty
  queued _ := rfl
  grounded _ := ⟨by simp [empty, Slot.empty], rfl⟩
  aloft _ h := by simp [empty] at h

variable {c : Cell}

/-- A cell whose compilation has ended is sound if its slot is. -/
theorem sound_next (accepting : Bool) (slot : c.slot.Sound) (state : c.slot.state ≠ .compiling)
    (removals : c.removals = []) : (c.next accepting).Sound where
  slot := slot
  queued _ := rfl
  grounded _ := ⟨state, removals⟩
  aloft f running := absurd running (flight?_eq_none.1 (flight?_next accepting) f)

/-- The slot that a flight leaves says how it ended, or nothing if it is outdated. -/
theorem slot_landed {f : Flight} (answer : Except Report Artifact)
    (aloft : c.Current f ∨ c.Outdated f) :
    (c.landed f answer).slot.Sound ∧ (c.landed f answer).slot.state ≠ .compiling := by
  rcases aloft with ⟨epoch, -, -⟩ | ⟨epoch, slot, -⟩
  · cases answer with
    | ok a =>
      rw [landed_ok epoch]
      exact ⟨Slot.sound_succeed a, by simp [Slot.succeed]⟩
    | error r =>
      rw [landed_error epoch]
      exact ⟨Slot.sound_fail _ _, by simp [Slot.fail]⟩
  · rw [landed_outdated answer (Nat.ne_of_lt epoch)]
    exact ⟨slot ▸ Slot.sound_empty, by simp [slot, Slot.empty]⟩

end Cell

/-! ## Turns keep cells sound -/

variable {σ : Type} {service : Service σ} {client : String} {cause : Cause}

theorem Turn.sound {accepting : Bool} {rules : List Rule} {fresh fresh' : Nat} {c c' : Cell}
    {notices : List Notice}
    (turn : Turn service client accepting rules fresh c cause notices fresh' c') (h : c.Sound) :
    c'.Sound := by
  cases turn with
  | share queued => exact ⟨h.slot, h.queued, h.grounded, h.aloft⟩
  | queue queued running => exact ⟨h.slot, fun idle => absurd idle running, h.grounded, h.aloft⟩
  | start queued running =>
    obtain ⟨state, removals⟩ := h.grounded (by simp [Cell.flight?_eq_none, running])
    exact Cell.sound_next accepting h.slot state removals
  | skip running =>
    obtain ⟨state, removals⟩ := h.grounded (Cell.flight?_of_waiting running)
    exact Cell.sound_next accepting h.slot state removals
  | takeOff running =>
    obtain ⟨-, removals⟩ := h.grounded (Cell.flight?_of_waiting running)
    refine ⟨Slot.sound_compiling _, by simp [Cell.takeOff], by simp [Cell.takeOff, Cell.flight?],
      ?_⟩
    intro f hf
    simp only [Cell.takeOff, Option.some.injEq, Running.flying.injEq] at hf
    exact .inl ⟨hf ▸ rfl, rfl, removals⟩
  | land state running =>
    obtain ⟨slot, state⟩ := Cell.slot_landed _ (h.aloft _ running)
    exact Cell.sound_next accepting slot state rfl
  | discardLater running =>
    refine ⟨Slot.sound_empty, h.queued, ?_, ?_⟩
    · intro flight
      exact absurd running (Cell.flight?_eq_none.1 flight _)
    · intro f hf
      right
      rcases h.aloft f hf with ⟨epoch, state, -⟩ | ⟨epoch, -, r, mem, stored⟩
      · exact ⟨by simp [Cell.discarded, epoch], rfl, c.removal, by simp,
          by simp [Cell.removal, state]⟩
      · exact ⟨by simp [Cell.discarded]; omega, rfl, r, List.mem_append_left _ mem, stored⟩
  | discardNow flight =>
    obtain ⟨-, removals⟩ := h.grounded flight
    refine ⟨Slot.sound_empty, h.queued,
      fun _ => ⟨by simp [Cell.discarded, Slot.empty], removals⟩, ?_⟩
    intro f running
    exact absurd running (Cell.flight?_eq_none.1 flight f)

/-! ## Runs -/

namespace Scheduler

/-- Every cell of the table is sound, and none is idle. -/
def View.Sound (v : View) : Prop :=
  ∀ client c, v.cells client = some c → c.Sound ∧ c.isIdle = false

theorem View.Sound.cellOf {v : View} (h : v.Sound) (client : String) : (v.cellOf client).Sound := by
  unfold View.cellOf
  cases here : v.cells client with
  | none => exact Cell.sound_empty
  | some c => exact (h client c here).1

theorem View.Step.sound {v w : View} (step : Step service cause client v w) (h : v.Sound) :
    w.Sound := by
  cases step with
  | @mk notices fresh c turn =>
    intro other d there
    simp only [turned, Function.update_apply] at there
    split at there
    · unfold Cell.kept at there
      split at there
      · cases there
      · cases there
        exact ⟨turn.sound (h.cellOf client), by simp_all⟩
    · exact h other d there

theorem View.Opens.sound {v w : View} {e : Event σ} (opens : View.Opens service v e w)
    (h : v.Sound) : w.Sound := by
  cases opens with
  | submit step | discard step => exact step.sound h
  | _ => exact h

variable (service) (workers : Nat) (limits : Limits) (state : σ) (events : List (Event σ))

theorem sound_replay : ((fresh workers limits state).replay service events).view.Sound := by
  refine replay_preserves _ View.Step.sound (fun _ _ h => h) ?_ events
  intro client c here
  rw [cells_fresh] at here
  cases here

/-- A sound cell that is kept and runs nothing holds how its last compilation ended. -/
theorem ended_of_sound {c : Cell} (sound : c.Sound) (used : c.isIdle = false)
    (running : c.running = none) :
    c.removed = false ∧ (c.slot.state = .compiled ∨ c.slot.state = .failed) := by
  have flight : c.flight? = none := Cell.flight?_eq_none.2 (by simp [running])
  have compiling := (sound.grounded flight).1
  simp only [Cell.isIdle, running, sound.queued running, Option.isNone_none, Bool.true_and,
    Bool.or_eq_false_iff] at used
  obtain ⟨removed, vacant⟩ := used
  refine ⟨removed, ?_⟩
  cases state : c.slot.state with
  | compiling => exact absurd state compiling
  | compiled => exact .inl rfl
  | failed => exact .inr rfl
  | uninitialized =>
    simp [Slot.isVacant, state, (sound.slot.uninitialized state).1] at vacant

/-- A client of which nothing runs is not marked as removed. -/
theorem View.Sound.not_removed {v : View} (h : v.Sound) {client : String}
    (idle : (v.cellOf client).running = none) : (v.cellOf client).removed = false := by
  unfold View.cellOf at idle ⊢
  cases here : v.cells client with
  | none => rfl
  | some c =>
    rw [here] at idle
    exact (ended_of_sound (h client c here).1 (h client c here).2 idle).1

/-- In every run the slots describe the compilations of their clients, and a client of which nothing
runs has a slot just if it has a list or its compilation failed. -/
theorem slots_describe_compilations (service : Service σ) (workers : Nat) (limits : Limits)
    (state : σ) (events : List (Event σ)) :
    let s := (fresh workers limits state).replay service events
    (∀ client c, s.cells.get? client = some c →
      (c.queued.isSome → c.running.isSome) ∧
      (c.slot.state = .compiling → ∃ f, c.running = some (.flying f) ∧ f.epoch = c.epoch) ∧
      (c.slot.state = .compiled → c.slot.artifact.isSome ∧ c.slot.lastError = none) ∧
      (c.slot.state = .failed → c.slot.lastError.isSome) ∧
      (c.slot.state = .uninitialized → c.slot.artifact = none ∧ c.slot.lastError = none) ∧
      (c.running = none →
        c.removed = false ∧ (c.slot.state = .compiled ∨ c.slot.state = .failed))) ∧
    ∀ client, (∀ c, s.cells.get? client = some c → c.running = none) →
      (client ∈ s.cells.keys ↔
        (s.slotOf client).artifact.isSome ∨ (s.slotOf client).state = .failed) := by
  intro s
  have h : s.view.Sound := sound_replay service workers limits state events
  constructor
  · intro client c here
    obtain ⟨sound, used⟩ := h client c here
    refine ⟨?_, ?_, sound.slot.compiled, sound.slot.failed, sound.slot.uninitialized,
      ended_of_sound sound used⟩
    · intro queued
      by_contra idle
      rw [Option.not_isSome_iff_eq_none] at idle
      simp [sound.queued idle] at queued
    · intro compiling
      cases flight : c.flight? with
      | none => exact absurd compiling (sound.grounded flight).1
      | some f =>
        have running := c.running_of_flight flight
        rcases sound.aloft f running with ⟨epoch, -, -⟩ | ⟨-, slot, -⟩
        · exact ⟨f, running, epoch⟩
        · simp [slot, Slot.empty] at compiling
  · intro client rest
    rw [Table.mem_keys, slotOf, cellOf]
    cases here : s.cells.get? client with
    | none => simp [Cell.empty, Slot.empty]
    | some c =>
      obtain ⟨sound, used⟩ := h client c here
      rcases (ended_of_sound sound used (rest c here)).2 with state | state
      · simp [(sound.slot.compiled state).1]
      · simp [state]

end Scheduler

end ContentBlocker
