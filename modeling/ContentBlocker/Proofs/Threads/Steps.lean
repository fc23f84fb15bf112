import ContentBlocker.Compile.Threads
import ContentBlocker.Proofs.Lists

/-!
# Steps of threads

`Compiles` and `Removes` list the steps that a thread can take, with what each one makes of the
slot; `compile_cases` and `remove_cases` say that a turn of a thread is such a step or nothing, and
the lemmas on `moved` what it leaves of everything else.
-/

namespace ContentBlocker

variable {σ : Type}

/-! ## Slots -/

namespace SharedSlot

variable (x : SharedSlot)

/-- Without rules only the state of the slot is put back. -/
theorem skip_eq (epoch : Nat) (previous : CompileState) :
    x.skip epoch previous = { x with slot := (x.skip epoch previous).slot } := by
  unfold skip
  split <;> rfl

theorem isIdle_of_running (running : x.running = true) : x.isIdle = false := by
  simp [isIdle, running]

end SharedSlot

/-! ## Stages -/

namespace Stage

/-- The thread sees to a compilation of its slot, or to that of the one behind it. -/
def carries : Stage → Bool
  | refusing _ => false
  | _ => true

/-- The thread holds the lock of its slot. -/
def locks : Stage → Bool
  | locked _ | begun .. | skipping .. | loaded _ | calling _ | answered .. | recorded .. => true
  | _ => false

/-- The thread has given back the lock of its slot. -/
def hasLeft : Stage → Bool
  | unlocked .. | handing _ | starting .. | refusing _ => true
  | _ => false

/-- The tickets that the thread is to answer or to give to the pool. -/
def tickets : Stage → List Nat
  | entering ticket | locked ticket | begun ticket _ _ | skipping ticket _ _ | recorded ticket _
  | unlocked ticket _ => [ticket]
  | loaded f | calling f | answered f _ => [f.ticket]
  | handing refused | refusing refused => refused
  | starting ticket refused => ticket :: refused

/-- The thread is new. -/
def isFirst : Stage → Bool
  | entering _ | starting _ [] => true
  | _ => false

theorem carries_of_locks {stage : Stage} (locks : stage.locks = true) : stage.carries = true := by
  cases stage <;> first | rfl | cases locks

theorem not_over_of_carries {stage : Stage} (carries : stage.carries = true) :
    stage.isOver = false := by
  cases stage <;> first | rfl | cases carries

end Stage

/-- The discard holds the lock of its slot. -/
def RemoverStage.locks : RemoverStage → Bool
  | .locked | .told => true
  | _ => false

/-! ## Moves -/

/-- `Compiles service client accepting rules x state stage m`: a thread at `stage` whose client has
the merged rules `rules` and whose slot is `x` can make the move `m`. -/
inductive Compiles (service : Service σ) (client : String) (accepting : Bool) (rules : List Rule)
    (x : SharedSlot) (state : σ) : Stage → Move Stage σ → Prop
  | lock {ticket : Nat} (free : x.locked = false) :
    Compiles service client accepting rules x state (.entering ticket)
      { shared := { x with locked := true }, stage := .locked ticket, service := state }
  | start {ticket : Nat} :
    Compiles service client accepting rules x state (.locked ticket)
      { shared := { x with slot := { x.slot with state := .compiling } }
        stage := .begun ticket x.epoch x.slot.state
        service := state }
  | lack {ticket epoch : Nat} {previous : CompileState} (none : rules = []) :
    Compiles service client accepting rules x state (.begun ticket epoch previous)
      { shared := x, stage := .skipping ticket epoch previous, service := state }
  | load {ticket epoch : Nat} {previous : CompileState} (some : rules ≠ []) :
    Compiles service client accepting rules x state (.begun ticket epoch previous)
      { shared := x, stage := .loaded ⟨ticket, epoch, .ofRules rules⟩, service := state }
  | skip {ticket epoch : Nat} {previous : CompileState} :
    Compiles service client accepting rules x state (.skipping ticket epoch previous)
      { shared := x.skip epoch previous
        stage := .recorded ticket (.ok (.ofSkipped client))
        service := state }
  | call {f : Flight} :
    Compiles service client accepting rules x state (.loaded f)
      { shared := x, stage := .calling f, service := state }
  | answer {f : Flight} {answer : Except Report Artifact} {next : σ}
    (answered : service.compile (listIdentifier client) f.conversion.document state =
      (answer, next)) :
    Compiles service client accepting rules x state (.calling f)
      { shared := x
        stage := .answered f answer
        service := next
        told := some (.compile client f.conversion.document answer.isOk) }
  | record {f : Flight} {answer : Except Report Artifact} :
    Compiles service client accepting rules x state (.answered f answer)
      { shared := x.record f answer
        stage := .recorded f.ticket (x.cell.outcome client f answer)
        service := state }
  | unlock {ticket : Nat} {outcome : Outcome} :
    Compiles service client accepting rules x state (.recorded ticket outcome)
      { shared := { x with locked := false }, stage := .unlocked ticket outcome, service := state }
  | complete {ticket : Nat} {outcome : Outcome} :
    Compiles service client accepting rules x state (.unlocked ticket outcome)
      { shared := x
        stage := .handing []
        service := state
        told := some (.complete ticket outcome) }
  | take {ticket : Nat} {refused : List Nat} (queued : x.queued = some ticket) :
    Compiles service client accepting rules x state (.handing refused)
      { shared := { x with queued := none }, stage := .starting ticket refused, service := state }
  | finish {refused : List Nat} (queued : x.queued = none) :
    Compiles service client accepting rules x state (.handing refused)
      { shared := { x with running := false }
        stage := .refusing refused
        service := state
        ends := true }
  | hand {ticket : Nat} {refused : List Nat} (accepts : accepting = true) :
    Compiles service client accepting rules x state (.starting ticket refused)
      { shared := x, stage := .refusing refused, service := state, handed := some ticket }
  | refuse {ticket : Nat} {refused : List Nat} (refuses : accepting = false) :
    Compiles service client accepting rules x state (.starting ticket refused)
      { shared := x, stage := .handing (ticket :: refused), service := state }
  | tell {ticket : Nat} {refused : List Nat} :
    Compiles service client accepting rules x state (.refusing (ticket :: refused))
      { shared := x
        stage := .refusing refused
        service := state
        told := some (.complete ticket (.error (.defect .poolClosed))) }

theorem Thread.move_eq_some {service : Service σ} {state : σ} {accepting : Bool}
    {rules : List Rule} {x : SharedSlot} {t : Thread} {m : Move Stage σ} :
    t.move service state accepting rules x = some m ↔
      Compiles service t.client accepting rules x state t.stage m := by
  obtain ⟨client, slot, worker, stage⟩ := t
  constructor
  · intro h
    cases stage with
    | entering ticket =>
      by_cases held : x.locked
      · simp [move, held] at h
      · simp only [move, held, Bool.false_eq_true, if_false, Option.some.injEq] at h
        exact h ▸ .lock (by simpa using held)
    | begun ticket epoch previous =>
      by_cases none : rules = []
      · subst none
        exact Option.some.inj h ▸ .lack rfl
      · simp only [move, List.isEmpty_eq_false_iff.2 none, Bool.false_eq_true, if_false,
          Option.some.injEq] at h
        exact h ▸ .load none
    | handing refused =>
      simp only [move] at h
      split at h
      · rename_i ticket queued
        exact Option.some.inj h ▸ .take queued
      · rename_i queued
        exact Option.some.inj h ▸ .finish queued
    | starting ticket refused =>
      cases accepting with
      | true => exact Option.some.inj h ▸ .hand rfl
      | false => exact Option.some.inj h ▸ .refuse rfl
    | refusing refused =>
      cases refused with
      | nil => cases h
      | cons ticket refused => exact Option.some.inj h ▸ .tell
    | calling f => exact Option.some.inj h ▸ .answer rfl
    | locked | skipping | loaded | answered | recorded | unlocked =>
      cases h
      constructor
  · intro h
    cases h with
    | lock free => simp [move, free]
    | lack none => simp [move, none]
    | load some => simp [move, some]
    | answer answered => simp [move, answered]
    | take queued | finish queued => simp [move, queued]
    | hand ok | refuse ok => simp [move, ok]
    | _ => rfl

/-- `Removes service client r x state stage m`: a discard at `stage` whose slot is `x` can make the
move `m`. -/
inductive Removes (service : Service σ) (client : String) (r : Removal) (x : SharedSlot)
    (state : σ) : RemoverStage → Move RemoverStage σ → Prop
  | lock (free : x.locked = false) :
    Removes service client r x state .waiting
      { shared := { x with locked := true }, stage := .locked, service := state }
  | tell (stored : r.maybeStored = true) :
    Removes service client r x state .locked
      { shared := x
        stage := .told
        service := (service.remove (listIdentifier client) state).2
        told := some (.remove client) }
  | spare (none : r.maybeStored = false) :
    Removes service client r x state .locked { shared := x, stage := .told, service := state }
  | unlock :
    Removes service client r x state .told
      { shared := { x with locked := false }, stage := .unlocked, service := state }
  | finish :
    Removes service client r x state .unlocked
      { shared := x
        stage := .ended
        service := state
        told := some (.discard client r.hadArtifact)
        ends := true }

theorem Remover.move_eq_some {service : Service σ} {state : σ} {x : SharedSlot} {r : Remover}
    {m : Move RemoverStage σ} :
    r.move service state x = some m ↔ Removes service r.client r.removal x state r.stage m := by
  obtain ⟨client, slot, removal, stage⟩ := r
  constructor
  · intro h
    cases stage with
    | waiting =>
      by_cases held : x.locked
      · simp [move, held] at h
      · simp only [move, held, Bool.false_eq_true, if_false, Option.some.injEq] at h
        exact h ▸ .lock (by simpa using held)
    | locked =>
      by_cases stored : removal.maybeStored
      · simp only [move, stored, if_true, Option.some.injEq] at h
        exact h ▸ .tell stored
      · simp only [move, stored, Bool.false_eq_true, if_false, Option.some.injEq] at h
        exact h ▸ .spare (by simpa using stored)
    | told | unlocked =>
      cases h
      constructor
    | ended => cases h
  · intro h
    cases h with
    | lock free => simp [move, free]
    | tell stored | spare stored =>
      dsimp only at stored
      simp [move, stored]
    | _ => rfl

/-! ## Threads that wait -/

theorem Thread.move_eq_none {service : Service σ} {state : σ} {accepting : Bool}
    {rules : List Rule} {x : SharedSlot} {t : Thread} :
    t.move service state accepting rules x = none ↔
      t.stage.isOver = true ∨ (∃ ticket, t.stage = .entering ticket) ∧ x.locked = true := by
  obtain ⟨client, slot, worker, stage⟩ := t
  cases stage with
  | refusing refused => cases refused <;> simp [move, Stage.isOver]
  | handing refused => cases queued : x.queued <;> simp [move, Stage.isOver, queued]
  | starting ticket refused => cases accepting <;> simp [move, Stage.isOver]
  | _ => simp [move, Stage.isOver]

theorem Remover.move_eq_none {service : Service σ} {state : σ} {x : SharedSlot} {r : Remover} :
    r.move service state x = none ↔
      r.stage = .ended ∨ r.stage = .waiting ∧ x.locked = true := by
  obtain ⟨client, slot, removal, stage⟩ := r
  cases stage with
  | locked => cases stored : removal.maybeStored <;> simp [move, stored]
  | _ => simp [move]

namespace Compiles

variable {service : Service σ} {client : String} {accepting : Bool} {rules : List Rule}
  {x : SharedSlot} {state : σ} {stage : Stage} {m : Move Stage σ}

/-- A thread that has given back the lock does not take it again. -/
theorem hasLeft (moves : Compiles service client accepting rules x state stage m)
    (left : stage.hasLeft = true) : m.stage.hasLeft = true := by
  cases moves <;> first | rfl | cases left

theorem locks_or_hasLeft (moves : Compiles service client accepting rules x state stage m)
    (locks : stage.locks = true) : m.stage.locks = true ∨ m.stage.hasLeft = true := by
  cases moves <;> first | exact .inl rfl | exact .inr rfl

end Compiles

/-! ## What a move leaves -/

namespace Threads

variable (s : Threads σ) (service : Service σ) (client : String) (i : Nat)

/-- The merged rules of a client. -/
def rulesOf (s : Threads σ) (client : String) : List Rule := (s.store.rulesOf client).merged

theorem slotAt_set {x : SharedSlot} (here : i < s.slots.length) (j : Nat) :
    (s.slots.set i x)[j]?.getD .empty = if i = j then x else s.slotAt j := by
  by_cases same : i = j
  · subst same
    rw [List.getElem?_set_self here, if_pos rfl]
    rfl
  · rw [List.getElem?_set_ne same, if_neg same]
    rfl

theorem drop_eq : s.drop client i = { s with table := (s.drop client i).table } := by
  unfold drop
  split <;> rfl

theorem get?_drop (other : String) :
    (s.drop client i).table.get? other =
      if (s.slotAt i).isIdle ∧ s.table.get? client = some i ∧ client = other then none
      else s.table.get? other := by
  unfold drop
  split
  · rename_i idle
    simp only [Table.get?_erase, idle, true_and]
  · rename_i used
    rw [if_neg fun both => used ⟨both.1, both.2.1⟩]

section Moved

variable {α : Type} (m : Move α σ)

/-- A move changes one slot, adds to the line and to the trace, and may drop the slot. -/
theorem moved_eq :
    s.moved client i m =
      { s with
        slots := s.slots.set i m.shared
        line := s.line ++ (m.handed.map (⟨·, client, i⟩)).toList
        trace := m.told.toList ++ s.trace
        service := m.service
        table := (s.moved client i m).table } := by
  unfold moved
  split
  · rw [drop_eq]
    rfl
  · rfl

@[simp] theorem moved_workers : (s.moved client i m).workers = s.workers := by rw [moved_eq]

@[simp] theorem moved_accepting : (s.moved client i m).accepting = s.accepting := by rw [moved_eq]

@[simp] theorem moved_slots : (s.moved client i m).slots = s.slots.set i m.shared := by
  rw [moved_eq]

@[simp] theorem moved_line :
    (s.moved client i m).line = s.line ++ (m.handed.map (⟨·, client, i⟩)).toList := by
  rw [moved_eq]

@[simp] theorem moved_compilers : (s.moved client i m).compilers = s.compilers := by rw [moved_eq]

@[simp] theorem moved_removers : (s.moved client i m).removers = s.removers := by rw [moved_eq]

@[simp] theorem moved_asked : (s.moved client i m).asked = s.asked := by rw [moved_eq]

@[simp] theorem moved_trace : (s.moved client i m).trace = m.told.toList ++ s.trace := by
  rw [moved_eq]

variable {i}

theorem slotAt_moved (here : i < s.slots.length) (j : Nat) :
    (s.moved client i m).slotAt j = if i = j then m.shared else s.slotAt j := by
  rw [slotAt, moved_slots, slotAt_set s i here]

theorem get?_moved (here : i < s.slots.length) (other : String) :
    (s.moved client i m).table.get? other =
      if m.ends ∧ m.shared.isIdle ∧ s.table.get? client = some i ∧ client = other then none
      else s.table.get? other := by
  unfold moved
  by_cases ends : m.ends = true
  · have slot (state : Threads σ) (slots : state.slots = s.slots.set i m.shared) :
        state.slotAt i = m.shared := by
      rw [slotAt, slots, slotAt_set s i here, if_pos rfl]
    simp only [ends, if_true, true_and, get?_drop]
    rw [slot _ rfl]
    rfl
  · simp only [ends, Bool.false_eq_true, false_and, if_false]
    rfl

end Moved

/-! ## Changed slots -/

theorem slotAt_put {x : SharedSlot} (here : i < s.slots.length) (j : Nat) :
    (s.put i x).slotAt j = if i = j then x else s.slotAt j :=
  slotAt_set s i here j

/-- The slot of a client that something was asked for. -/
def wanted (s : Threads σ) (i : Nat) : SharedSlot := { s.slotAt i with removed := false }

/-- A request shares the queued compilation, queues one, or starts one. -/
theorem ask_cases :
    (∃ ticket, (s.slotAt i).queued = some ticket ∧
      s.ask client i = (ticket, s.put i (s.wanted i))) ∨
    ((s.slotAt i).queued = none ∧ (s.slotAt i).running = true ∧
      s.ask client i = (s.asked.length,
        { s with asked := s.asked ++ [client] }.put i
          { s.wanted i with queued := some s.asked.length })) ∨
    ((s.slotAt i).queued = none ∧ (s.slotAt i).running = false ∧
      s.ask client i = (s.asked.length,
        ({ s with asked := s.asked ++ [client] }.put i { s.wanted i with running := true }).spawn
          ⟨client, i, false, .starting s.asked.length []⟩)) := by
  cases queued : (s.slotAt i).queued with
  | some ticket => exact .inl ⟨ticket, rfl, by simp [ask, wanted, queued]⟩
  | none =>
    refine .inr ?_
    cases running : (s.slotAt i).running with
    | true => exact .inl ⟨rfl, rfl, by simp [ask, wanted, queued, running]⟩
    | false => exact .inr ⟨rfl, rfl, by simp [ask, wanted, queued, running]⟩

/-! ## New slots -/

@[simp] theorem slotAt_addSlot (j : Nat) : (s.addSlot client).slotAt j = s.slotAt j := by
  rw [slotAt, addSlot, slotAt, List.getElem?_append]
  split
  · rfl
  · rename_i le
    rw [List.getElem?_eq_none (Nat.not_lt.1 le)]
    cases j - s.slots.length <;> rfl

theorem get?_addSlot (other : String) :
    (s.addSlot client).table.get? other =
      if client = other then some s.slots.length else s.table.get? other :=
  Table.get?_set ..

/-! ## What requests, discards and free workers leave -/

theorem opened_eq :
    (s.opened client).2 =
      { s with slots := (s.opened client).2.slots, table := (s.opened client).2.table } := by
  unfold opened
  split <;> rfl

@[simp] theorem opened_compilers : (s.opened client).2.compilers = s.compilers := by rw [opened_eq]

theorem ask_eq :
    (s.ask client i).2 =
      { s with
        slots := (s.ask client i).2.slots
        compilers := (s.ask client i).2.compilers
        asked := (s.ask client i).2.asked } := by
  rcases s.ask_cases client i with ⟨ticket, -, eq⟩ | ⟨-, -, eq⟩ | ⟨-, -, eq⟩ <;> rw [eq] <;> rfl

@[simp] theorem ask_table : (s.ask client i).2.table = s.table := by rw [ask_eq]

theorem submit_eq :
    (s.submit client).2 =
      { s with
        slots := (s.submit client).2.slots
        table := (s.submit client).2.table
        compilers := (s.submit client).2.compilers
        asked := (s.submit client).2.asked } := by
  cases there : s.table.get? client with
  | some i =>
    simp only [submit, opened, there]
    rw [ask_eq]
  | none =>
    simp only [submit, opened, there]
    rw [ask_eq]
    rfl

@[simp] theorem submit_workers : (s.submit client).2.workers = s.workers := by rw [submit_eq]

@[simp] theorem submit_removers : (s.submit client).2.removers = s.removers := by rw [submit_eq]

@[simp] theorem submit_trace : (s.submit client).2.trace = s.trace := by rw [submit_eq]

theorem discard_eq :
    s.discard client =
      { s with slots := (s.discard client).slots, removers := (s.discard client).removers } := by
  unfold discard
  split <;> rfl

@[simp] theorem discard_workers : (s.discard client).workers = s.workers := by rw [discard_eq]

@[simp] theorem discard_table : (s.discard client).table = s.table := by rw [discard_eq]

@[simp] theorem discard_compilers : (s.discard client).compilers = s.compilers := by
  rw [discard_eq]

@[simp] theorem discard_trace : (s.discard client).trace = s.trace := by rw [discard_eq]

theorem pick_eq : s.pick = { s with line := s.pick.line, compilers := s.pick.compilers } := by
  unfold pick
  split
  · rfl
  · split <;> rfl

@[simp] theorem pick_workers : s.pick.workers = s.workers := by rw [pick_eq]

@[simp] theorem pick_table : s.pick.table = s.table := by rw [pick_eq]

@[simp] theorem pick_removers : s.pick.removers = s.removers := by rw [pick_eq]

@[simp] theorem pick_trace : s.pick.trace = s.trace := by rw [pick_eq]

@[simp] theorem slotAt_pick (j : Nat) : s.pick.slotAt j = s.slotAt j := by
  rw [slotAt, pick_eq]
  rfl

/-! ## Turns -/

section Stages

variable (k j : Nat) (t : Thread) (stage : Stage) (r : Remover) (next : RemoverStage)

@[simp] theorem slotAt_atStage : (s.atStage k t stage).slotAt j = s.slotAt j := rfl

@[simp] theorem slotAt_removerAtStage : (s.removerAtStage k r next).slotAt j = s.slotAt j := rfl

theorem mem_atStage {u : Thread} (mem : u ∈ (s.atStage k t stage).compilers) :
    u ∈ s.compilers ∨ u = { t with stage } :=
  List.mem_or_eq_of_mem_set mem

/-- A thread whose turn it was is at its next stage. -/
theorem getElem?_turned {k : Nat} {t : Thread} (found : s.compilers[k]? = some t)
    (m : Move Stage σ) :
    ((s.atStage k t m.stage).moved client i m).compilers[k]? =
      some { t with stage := m.stage } := by
  rw [moved_compilers]
  exact List.getElem?_set_self (List.getElem?_eq_some_iff.1 found).1

theorem mem_removerAtStage {u : Remover} (mem : u ∈ (s.removerAtStage k r next).removers) :
    u ∈ s.removers ∨ u = { r with stage := next } :=
  List.mem_or_eq_of_mem_set mem

end Stages

/-- A turn of a thread that compiles is one of its moves, or nothing. -/
theorem compile_cases (k : Nat) :
    s.compile service k = s ∨
      ∃ t m, s.compilers[k]? = some t ∧
        Compiles service t.client s.accepting (s.rulesOf t.client) (s.slotAt t.slot) s.service
          t.stage m ∧
        s.compile service k = (s.atStage k t m.stage).moved t.client t.slot m := by
  unfold compile
  split
  · exact .inl rfl
  · rename_i t found
    dsimp only
    split
    · exact .inl rfl
    · rename_i m moves
      exact .inr ⟨t, m, found, Thread.move_eq_some.1 moves, rfl⟩

theorem compile_of_moves {k : Nat} {t : Thread} {m : Move Stage σ}
    (found : s.compilers[k]? = some t)
    (moves : Compiles service t.client s.accepting (s.rulesOf t.client) (s.slotAt t.slot) s.service
      t.stage m) :
    s.compile service k = (s.atStage k t m.stage).moved t.client t.slot m := by
  have moves := Thread.move_eq_some.2 moves
  unfold rulesOf at moves
  simp only [compile, found, moves]

theorem remove_cases (k : Nat) :
    s.remove service k = s ∨
      ∃ r m, s.removers[k]? = some r ∧
        Removes service r.client r.removal (s.slotAt r.slot) s.service r.stage m ∧
        s.remove service k = (s.removerAtStage k r m.stage).moved r.client r.slot m := by
  unfold remove
  split
  · exact .inl rfl
  · rename_i r found
    split
    · exact .inl rfl
    · rename_i m moves
      exact .inr ⟨r, m, found, Remover.move_eq_some.1 moves, rfl⟩

theorem remove_of_moves {k : Nat} {r : Remover} {m : Move RemoverStage σ}
    (found : s.removers[k]? = some r)
    (moves : Removes service r.client r.removal (s.slotAt r.slot) s.service r.stage m) :
    s.remove service k = (s.removerAtStage k r m.stage).moved r.client r.slot m := by
  simp only [remove, found, Remover.move_eq_some.2 moves]

/-! ## Actions -/

/-- The threads that compile stay as they are, one of them goes on, or there is one more. -/
theorem compilers_after (a : Action σ) :
    (s.after service a).compilers = s.compilers ∨
      (∃ t : Thread, t.stage.isFirst = true ∧
        (s.after service a).compilers = s.compilers ++ [t]) ∨
      ∃ k t m, a = .compile k ∧ s.compilers[k]? = some t ∧
        Compiles service t.client s.accepting (s.rulesOf t.client) (s.slotAt t.slot) s.service
          t.stage m ∧
        s.after service a = (s.atStage k t m.stage).moved t.client t.slot m := by
  cases a with
  | change | alter | shutdown => exact .inl rfl
  | submit who =>
    change ((s.opened who).2.ask who (s.opened who).1).2.compilers = _ ∨
      (∃ t : Thread, _ ∧ ((s.opened who).2.ask who (s.opened who).1).2.compilers = _) ∨ _
    rw [← opened_compilers s who]
    rcases (s.opened who).2.ask_cases who (s.opened who).1 with ⟨_, -, eq⟩ | ⟨-, -, eq⟩ |
      ⟨-, -, eq⟩ <;> rw [eq]
    · exact .inl rfl
    · exact .inl rfl
    · exact .inr (.inl ⟨⟨who, _, false, .starting _ []⟩, rfl, rfl⟩)
  | discard who => exact .inl (s.discard_compilers who)
  | pick =>
    change s.pick.compilers = _ ∨ (∃ t : Thread, _ ∧ s.pick.compilers = _) ∨ _
    unfold pick
    split
    · exact .inl rfl
    · split
      · exact .inr (.inl ⟨⟨_, _, true, .entering _⟩, rfl, rfl⟩)
      · exact .inl rfl
  | compile k =>
    rcases s.compile_cases service k with same | ⟨t, m, found, moves, eq⟩
    · exact .inl (congrArg Threads.compilers same)
    · exact .inr (.inr ⟨k, t, m, rfl, found, moves, eq⟩)
  | remove k =>
    left
    change (s.remove service k).compilers = _
    rcases s.remove_cases service k with same | ⟨r, m, -, -, eq⟩
    · rw [same]
    · rw [eq, moved_compilers]
      rfl

/-- What an action tells is told by a thread whose turn it is. -/
theorem trace_after (a : Action σ) :
    (s.after service a).trace = s.trace ∨
      (∃ k t m, a = .compile k ∧ s.compilers[k]? = some t ∧
        Compiles service t.client s.accepting (s.rulesOf t.client) (s.slotAt t.slot) s.service
          t.stage m ∧
        (s.after service a).trace = m.told.toList ++ s.trace) ∨
      ∃ k r m, a = .remove k ∧ s.removers[k]? = some r ∧
        Removes service r.client r.removal (s.slotAt r.slot) s.service r.stage m ∧
        (s.after service a).trace = m.told.toList ++ s.trace := by
  cases a with
  | change | alter | shutdown => exact .inl rfl
  | submit who => exact .inl (s.submit_trace who)
  | discard who => exact .inl (s.discard_trace who)
  | pick => exact .inl s.pick_trace
  | compile k =>
    rcases s.compile_cases service k with same | ⟨t, m, found, moves, eq⟩
    · exact .inl (congrArg Threads.trace same)
    · exact .inr (.inl ⟨k, t, m, rfl, found, moves, by rw [after, eq, moved_trace]; rfl⟩)
  | remove k =>
    rcases s.remove_cases service k with same | ⟨r, m, found, moves, eq⟩
    · exact .inl (congrArg Threads.trace same)
    · exact .inr (.inr ⟨k, r, m, rfl, found, moves, by rw [after, eq, moved_trace]; rfl⟩)

/-! ## One thread in a run -/

section Progress

variable {s} {k : Nat}

/-- A thread stays where it is, or its turn comes. -/
theorem getElem?_compilers_after {t : Thread} (found : s.compilers[k]? = some t) (a : Action σ) :
    (s.after service a).compilers[k]? = some t ∨
      a = .compile k ∧ ∃ m,
        Compiles service t.client s.accepting (s.rulesOf t.client) (s.slotAt t.slot) s.service
          t.stage m ∧
        s.after service a = (s.atStage k t m.stage).moved t.client t.slot m := by
  rcases s.compilers_after service a with eq | ⟨u, -, eq⟩ | ⟨j, u, m, rfl, there, moves, eq⟩
  · exact .inl (by rw [eq, found])
  · left
    rw [eq, List.getElem?_append_left (List.getElem?_eq_some_iff.1 found).1, found]
  · by_cases here : j = k
    · subst here
      obtain rfl : t = u := Option.some.inj (found.symm.trans there)
      exact .inr ⟨rfl, m, moves, eq⟩
    · left
      rw [eq, moved_compilers, atStage, List.getElem?_set_ne here, found]

/-- A thread has taken a step, was there before, or is new. -/
theorem getElem?_of_after {u : Thread} (a : Action σ)
    (there : (s.after service a).compilers[k]? = some u) :
    s.compilers[k]? = some u ∨ (s.compilers[k]? = none ∧ u.stage.isFirst = true) ∨
      ∃ t m, a = .compile k ∧ s.compilers[k]? = some t ∧ u = { t with stage := m.stage } ∧
        Compiles service t.client s.accepting (s.rulesOf t.client) (s.slotAt t.slot) s.service
          t.stage m := by
  cases found : s.compilers[k]? with
  | some t =>
    rcases getElem?_compilers_after service found a with
      stays | ⟨rfl, m, moves, eq⟩
    · exact .inl (stays.symm.trans there)
    · refine .inr (.inr ⟨t, m, rfl, rfl, ?_, moves⟩)
      rw [eq, getElem?_turned _ _ _ found] at there
      exact (Option.some.inj there).symm
  | none =>
    have le := List.getElem?_eq_none_iff.1 found
    rcases s.compilers_after service a with eq | ⟨t, first, eq⟩ |
      ⟨j, t, m, -, -, -, eq⟩
    · rw [eq, found] at there
      cases there
    · refine .inr (.inl ⟨rfl, ?_⟩)
      rw [eq, List.getElem?_append_right le, List.getElem?_singleton] at there
      split at there
      · exact Option.some.inj there ▸ first
      · cases there
    · rw [eq, moved_compilers, atStage, List.getElem?_eq_none (by rwa [List.length_set])] at there
      cases there

/-- A discard stays where it is, or its turn comes. -/
theorem getElem?_removers_after {r : Remover} (found : s.removers[k]? = some r) (a : Action σ) :
    (s.after service a).removers[k]? = some r ∨
      a = .remove k ∧ ∃ m,
        Removes service r.client r.removal (s.slotAt r.slot) s.service r.stage m ∧
        s.after service a = (s.removerAtStage k r m.stage).moved r.client r.slot m := by
  cases a with
  | change | alter | shutdown => exact .inl found
  | submit who => exact .inl (by rw [after, submit_removers, found])
  | discard who =>
    refine .inl ?_
    change (s.discard who).removers[k]? = some r
    unfold discard
    split
    · exact found
    · exact (List.getElem?_append_left (List.getElem?_eq_some_iff.1 found).1).trans found
  | pick => exact .inl (by rw [after, pick_removers, found])
  | compile j =>
    refine .inl ?_
    change (s.compile service j).removers[k]? = some r
    rcases s.compile_cases service j with same | ⟨u, m, -, -, eq⟩
    · rw [same, found]
    · rw [eq, moved_removers]
      exact found
  | remove j =>
    by_cases here : j = k
    · subst here
      rcases s.remove_cases service j with same | ⟨u, m, there, moves, eq⟩
      · exact .inl ((congrArg (·.removers[j]?) same).trans found)
      · obtain rfl : r = u := Option.some.inj (found.symm.trans there)
        exact .inr ⟨rfl, m, moves, eq⟩
    · refine .inl ?_
      change (s.remove service j).removers[k]? = some r
      rcases s.remove_cases service j with same | ⟨u, m, there, moves, eq⟩
      · rw [same, found]
      · rw [eq, moved_removers, removerAtStage, List.getElem?_set_ne here, found]

end Progress

theorem replay_append (first second : List (Action σ)) :
    s.replay service (first ++ second) = (s.replay service first).replay service second :=
  List.foldl_append ..

/-- What every action keeps is kept by every run. -/
theorem replay_preserves {service : Service σ} {P : Threads σ → Prop}
    (step : ∀ s a, P s → P (s.after service a)) {s : Threads σ} (start : P s)
    (actions : List (Action σ)) : P (s.replay service actions) := by
  induction actions generalizing s with
  | nil => exact start
  | cons a actions ih => exact ih (step s a start)

end Threads

end ContentBlocker
