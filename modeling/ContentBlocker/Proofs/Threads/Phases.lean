import ContentBlocker.Proofs.Compile.Turn
import ContentBlocker.Proofs.Threads.Locks
import Mathlib.Logic.Relation

/-!
# Threads that go on alone

A thread that takes several steps while all others stand still changes its slot, tells notices and
gives tickets to the pool; of everything around the other slots it changes nothing.  `Phase` says
how far it has come, and `exists_compile` and `exists_remove` what is left of the threads then.
-/

namespace ContentBlocker

variable {σ α : Type}

/-! ## Phases -/

/-- How far a thread has come since others stood still. -/
structure Phase (α σ : Type) where
  stage : α
  shared : SharedSlot
  service : σ
  /-- what it told, latest first -/
  told : List Notice
  /-- the tickets that it gave to the pool -/
  handed : List Nat
  /-- whether its slot was dropped -/
  dropped : Bool

namespace Phase

def start (stage : α) (shared : SharedSlot) (service : σ) : Phase α σ :=
  ⟨stage, shared, service, [], [], false⟩

/-- The phase after a move, of a thread whose client has the slot or had it when it was dropped. -/
def moved (p : Phase α σ) (m : Move α σ) : Phase α σ where
  stage := m.stage
  shared := m.shared
  service := m.service
  told := m.told.toList ++ p.told
  handed := p.handed ++ m.handed.toList
  dropped := p.dropped || (m.ends && m.shared.isIdle)

end Phase

/-- A thread that compiles gets from a phase to another. -/
def Compiling (service : Service σ) (client : String) (accepting : Bool) (rules : List Rule) :
    Phase Stage σ → Phase Stage σ → Prop :=
  Relation.ReflTransGen fun p q =>
    ∃ m, Compiles service client accepting rules p.shared p.service p.stage m ∧ q = p.moved m

/-- A discard gets from a phase to another. -/
def Removing (service : Service σ) (client : String) (r : Removal) :
    Phase RemoverStage σ → Phase RemoverStage σ → Prop :=
  Relation.ReflTransGen fun p q =>
    ∃ m, Removes service client r p.shared p.service p.stage m ∧ q = p.moved m

section Stretches

variable {service : Service σ} {client : String} {accepting : Bool} {rules : List Rule}
  {x : SharedSlot} {state : σ} {ticket : Nat}

/-- A thread with rules gets the lock and calls the service. -/
theorem compiling_call (free : x.locked = false) (some : rules ≠ []) :
    Compiling service client accepting rules (.start (.entering ticket) x state)
      (.start (.calling ⟨ticket, x.epoch, .ofRules rules⟩)
        { x with slot := { x.slot with state := .compiling }, locked := true } state) :=
  .tail (.tail (.tail (.single ⟨_, .lock free, rfl⟩) ⟨_, .start, rfl⟩) ⟨_, .load some, rfl⟩)
    ⟨_, .call, rfl⟩

/-- A thread without rules leaves the slot as it was. -/
theorem compiling_skip (free : x.locked = false) (none : rules = []) :
    Compiling service client accepting rules (.start (.entering ticket) x state)
      { Phase.start (.handing []) x state with
        told := [.complete ticket (.ok (.ofSkipped client))] } := by
  have back : { x with slot := { x.slot with state := .compiling }, locked := true }.skip x.epoch
      x.slot.state = { x with locked := true } := if_pos rfl
  have unlocked : { x with locked := false } = x := by rw [← free]
  have locks : Compiling service client accepting rules (.start (.entering ticket) x state)
      (.start (.skipping ticket x.epoch x.slot.state)
        { x with slot := { x.slot with state := .compiling }, locked := true } state) :=
    .tail (.tail (.single ⟨_, .lock free, rfl⟩) ⟨_, .start, rfl⟩) ⟨_, .lack none, rfl⟩
  refine ((locks.tail ⟨_, .skip, rfl⟩).tail ⟨_, .unlock, rfl⟩).tail ⟨_, .complete, ?_⟩
  simp [Phase.moved, Phase.start, back, unlocked]

/-- A thread whose call the service answers puts down what it found. -/
theorem compiling_land (f : Flight) :
    let answer := service.compile (listIdentifier client) f.conversion.document state
    Compiling service client accepting rules (.start (.calling f) x state)
      { Phase.start (.handing []) { x.record f answer.1 with locked := false } answer.2 with
        told :=
          [.complete f.ticket (x.cell.outcome client f answer.1),
            .compile client f.conversion.document answer.1.isOk] } :=
  .tail (.tail (.tail (.single ⟨_, .answer rfl, rfl⟩) ⟨_, .record, rfl⟩) ⟨_, .unlock, rfl⟩)
    ⟨_, .complete, rfl⟩

/-- Where nothing is queued the thread has no more to do. -/
theorem compiling_finish (queued : x.queued = none) :
    Compiling service client accepting rules (.start (.handing []) x state)
      { Phase.start (.refusing []) { x with running := false } state with
        dropped := { x with running := false }.isIdle } :=
  .single ⟨_, .finish queued, rfl⟩

theorem compiling_take (queued : x.queued = some ticket) :
    Compiling service client accepting rules (.start (.handing []) x state)
      (.start (.starting ticket []) { x with queued := none } state) :=
  .single ⟨_, .take queued, rfl⟩

theorem compiling_hand (accepts : accepting = true) :
    Compiling service client accepting rules (.start (.starting ticket []) x state)
      { Phase.start (.refusing []) x state with handed := [ticket] } :=
  .single ⟨_, .hand accepts, rfl⟩

/-- What the pool does not take is answered when nothing else is queued. -/
theorem compiling_refuse (refuses : accepting = false) (queued : x.queued = none) :
    Compiling service client accepting rules (.start (.starting ticket []) x state)
      { Phase.start (.refusing []) { x with running := false } state with
        told := [.complete ticket (.error (.defect .poolClosed))]
        dropped := { x with running := false }.isIdle } := by
  refine .tail (.tail (.single ⟨_, .refuse refuses, rfl⟩) ⟨_, .finish queued, rfl⟩)
    ⟨_, .tell, ?_⟩
  simp [Phase.moved, Phase.start]

end Stretches

/-! ## Threads in a phase -/

namespace Threads

variable (u : Threads σ) (service : Service σ)

/-- What a phase leaves of everything but the thread. -/
def reached (client : String) (i : Nat) (p : Phase α σ) : Threads σ :=
  { u with
    slots := u.slots.set i p.shared
    table := if p.dropped then u.table.erase client else u.table
    line := u.line ++ p.handed.map (⟨·, client, i⟩)
    trace := p.told ++ u.trace
    service := p.service }

def compilerAt (k : Nat) (t : Thread) (p : Phase Stage σ) : Threads σ :=
  { u.reached t.client t.slot p with compilers := u.compilers.set k { t with stage := p.stage } }

def removerAt (k : Nat) (r : Remover) (p : Phase RemoverStage σ) : Threads σ :=
  { u.reached r.client r.slot p with removers := u.removers.set k { r with stage := p.stage } }

variable {u service}

theorem set_slotAt {i : Nat} (here : i < u.slots.length) :
    u.slots.set i (u.slotAt i) = u.slots := by
  rw [slotAt, List.getElem?_eq_getElem here]
  exact List.set_getElem_self here

theorem compilerAt_start {k : Nat} {t : Thread} (found : u.compilers[k]? = some t)
    (here : t.slot < u.slots.length) :
    u.compilerAt k t (.start t.stage (u.slotAt t.slot) u.service) = u := by
  have same : u.compilers.set k t = u.compilers := by
    rw [← (List.getElem?_eq_some_iff.1 found).2, List.set_getElem_self]
  simp only [compilerAt, reached, Phase.start, set_slotAt here, same, List.map_nil,
    List.append_nil, List.nil_append, Bool.false_eq_true, if_false]

theorem removerAt_start {k : Nat} {r : Remover} (found : u.removers[k]? = some r)
    (here : r.slot < u.slots.length) :
    u.removerAt k r (.start r.stage (u.slotAt r.slot) u.service) = u := by
  have same : u.removers.set k r = u.removers := by
    rw [← (List.getElem?_eq_some_iff.1 found).2, List.set_getElem_self]
  simp only [removerAt, reached, Phase.start, set_slotAt here, same, List.map_nil,
    List.append_nil, List.nil_append, Bool.false_eq_true, if_false]

theorem table_moved {client : String} {i : Nat} (here : i < u.slots.length) (m : Move α σ) :
    (u.moved client i m).table =
      if m.ends ∧ m.shared.isIdle ∧ u.table.get? client = some i then u.table.erase client
      else u.table := by
  have slot (s : Threads σ) (slots : s.slots = u.slots.set i m.shared) : s.slotAt i = m.shared := by
    rw [slotAt, slots, slotAt_set u i here, if_pos rfl]
  unfold moved
  by_cases ends : m.ends = true
  · simp only [ends, if_true, true_and, drop]
    rw [slot _ rfl]
    by_cases unused : m.shared.isIdle ∧ u.table.get? client = some i
    · rw [if_pos unused]
      exact Eq.trans (congrArg Threads.table (if_pos unused)) rfl
    · rw [if_neg unused]
      exact Eq.trans (congrArg Threads.table (if_neg unused)) rfl
  · simp only [ends, Bool.false_eq_true, false_and, if_false]
    rfl

/-- A move of a thread that has come to a phase brings it to the next. -/
theorem moved_reached {client : String} {i : Nat} (here : i < u.slots.length)
    (home : u.table.get? client = some i) (p : Phase α σ) (m : Move α σ) (compilers : List Thread)
    (removers : List Remover) :
    { u.reached client i p with compilers, removers }.moved client i m =
      { u.reached client i (p.moved m) with compilers, removers } := by
  have length :
      i < ({ u.reached client i p with compilers, removers } : Threads σ).slots.length := by
    simpa [reached] using here
  have table : ({ u.reached client i p with compilers, removers }.moved client i m).table =
      (u.reached client i (p.moved m)).table := by
    rw [table_moved length]
    simp only [reached, Phase.moved]
    by_cases dropped : p.dropped = true
    · simp [dropped, Table.get?_erase]
    · simp [dropped, home]
  rw [moved_eq, table]
  simp only [reached, Phase.moved, List.set_set, List.map_append, List.append_assoc]
  cases m.handed <;> rfl

section Runs

variable {k : Nat}

theorem compile_compilerAt {t : Thread} (found : u.compilers[k]? = some t)
    (here : t.slot < u.slots.length) (home : u.table.get? t.client = some t.slot)
    {p : Phase Stage σ} {m : Move Stage σ}
    (moves : Compiles service t.client u.accepting (u.rulesOf t.client) p.shared p.service p.stage
      m) :
    (u.compilerAt k t p).compile service k = u.compilerAt k t (p.moved m) := by
  have slot : (u.compilerAt k t p).slotAt t.slot = p.shared := by
    rw [slotAt, compilerAt, reached, slotAt_set u t.slot here, if_pos rfl]
  have there : (u.compilerAt k t p).compilers[k]? = some { t with stage := p.stage } :=
    List.getElem?_set_self (List.getElem?_eq_some_iff.1 found).1
  rw [← slot] at moves
  rw [compile_of_moves _ service there moves]
  simp only [atStage, compilerAt, List.set_set]
  exact moved_reached here home p m _ u.removers

theorem remove_removerAt {r : Remover} (found : u.removers[k]? = some r)
    (here : r.slot < u.slots.length) (home : u.table.get? r.client = some r.slot)
    {p : Phase RemoverStage σ} {m : Move RemoverStage σ}
    (moves : Removes service r.client r.removal p.shared p.service p.stage m) :
    (u.removerAt k r p).remove service k = u.removerAt k r (p.moved m) := by
  have slot : (u.removerAt k r p).slotAt r.slot = p.shared := by
    rw [slotAt, removerAt, reached, slotAt_set u r.slot here, if_pos rfl]
  have there : (u.removerAt k r p).removers[k]? = some { r with stage := p.stage } :=
    List.getElem?_set_self (List.getElem?_eq_some_iff.1 found).1
  rw [← slot] at moves
  rw [remove_of_moves _ service there moves]
  simp only [removerAtStage, removerAt, List.set_set]
  exact moved_reached here home p m u.compilers _

/-- The only thread whose turn comes gets as far as its moves bring it. -/
theorem replay_compilerAt {t : Thread} (found : u.compilers[k]? = some t)
    (here : t.slot < u.slots.length) (home : u.table.get? t.client = some t.slot)
    {p : Phase Stage σ}
    (compiling : Compiling service t.client u.accepting (u.rulesOf t.client)
      (.start t.stage (u.slotAt t.slot) u.service) p) :
    ∃ actions, u.replay service actions = u.compilerAt k t p := by
  induction compiling with
  | refl => exact ⟨[], (compilerAt_start found here).symm⟩
  | tail _ last ih =>
    obtain ⟨actions, ih⟩ := ih
    obtain ⟨m, moves, rfl⟩ := last
    refine ⟨actions ++ [.compile k], ?_⟩
    rw [replay_append]
    exact (congrArg (compile service · k) ih).trans (compile_compilerAt found here home moves)

theorem replay_removerAt {r : Remover} (found : u.removers[k]? = some r)
    (here : r.slot < u.slots.length) (home : u.table.get? r.client = some r.slot)
    {p : Phase RemoverStage σ}
    (removing : Removing service r.client r.removal
      (.start r.stage (u.slotAt r.slot) u.service) p) :
    ∃ actions, u.replay service actions = u.removerAt k r p := by
  induction removing with
  | refl => exact ⟨[], (removerAt_start found here).symm⟩
  | tail _ last ih =>
    obtain ⟨actions, ih⟩ := ih
    obtain ⟨m, moves, rfl⟩ := last
    refine ⟨actions ++ [.remove k], ?_⟩
    rw [replay_append]
    exact (congrArg (remove service · k) ih).trans (remove_removerAt found here home moves)

end Runs

end Threads

/-! ## Corners -/

/-- A slot and those who have something to do there. -/
@[ext]
structure Corner where
  shared : SharedSlot
  jobs : List Job
  compilers : List Thread
  removers : List Remover

namespace Threads

variable {u : Threads σ} {service : Service σ}

def corner (u : Threads σ) (i : Nat) : Corner where
  shared := u.slotAt i
  jobs := u.line.filter (·.slot = i)
  compilers := u.compilers.filter fun t => t.slot = i && !t.stage.isOver
  removers := u.removers.filter fun r => r.slot = i && r.stage ≠ .ended

/-- After some steps of a thread all is as its phase says, and the other corners are as before. -/
structure Follows (u : Threads σ) (client : String) (i : Nat) (p : Phase α σ) (w : Threads σ) :
    Prop where
  workers : w.workers = u.workers
  accepting : w.accepting = u.accepting
  asked : w.asked = u.asked
  store : w.store = u.store
  table : w.table = if p.dropped then u.table.erase client else u.table
  line : w.line = u.line ++ p.handed.map (⟨·, client, i⟩)
  trace : w.trace = p.told ++ u.trace
  service : w.service = p.service
  apart : ∀ j, j ≠ i → w.corner j = u.corner j

variable {client : String} {i : Nat}

theorem follows_reached (here : i < u.slots.length) (p : Phase α σ) {compilers : List Thread}
    {removers : List Remover}
    (compile : ∀ j, j ≠ i → compilers.filter (fun t => t.slot = j && !t.stage.isOver) =
      u.compilers.filter fun t => t.slot = j && !t.stage.isOver)
    (remove : ∀ j, j ≠ i → removers.filter (fun r => r.slot = j && r.stage ≠ .ended) =
      u.removers.filter fun r => r.slot = j && r.stage ≠ .ended) :
    u.Follows client i p { u.reached client i p with compilers, removers } := by
  refine ⟨rfl, rfl, rfl, rfl, rfl, rfl, rfl, rfl, fun j apart => ?_⟩
  have slot : ({ u.reached client i p with compilers, removers } : Threads σ).slotAt j =
      u.slotAt j := by
    rw [slotAt, reached, slotAt_set u i here, if_neg (Ne.symm apart)]
  have handed : (p.handed.map (Job.mk · client i)).filter (·.slot = j) = [] := by
    simp [List.filter_map, Function.comp_def, Ne.symm apart]
  refine Corner.ext slot ?_ (compile j apart) (remove j apart)
  simp only [corner, reached, List.filter_append, handed, List.append_nil]

/-- The jobs that a phase leaves in its corner. -/
theorem jobs_handed {handed : List Nat} :
    (u.line ++ handed.map (Job.mk · client i)).filter (·.slot = i) =
      (u.corner i).jobs ++ handed.map (⟨·, client, i⟩) := by
  simp [corner, List.filter_map, Function.comp_def]

/-- The only thread that has something to do in a slot gets as far as its moves bring it. -/
theorem exists_compile (sound : u.Sound) {worker : Bool} {stage : Stage}
    (alone : (u.corner i).compilers = [⟨client, i, worker, stage⟩]) (carries : stage.carries = true)
    {p : Phase Stage σ}
    (compiling : Compiling service client u.accepting (u.rulesOf client)
      (.start stage (u.slotAt i) u.service) p) :
    ∃ actions, u.Follows client i p (u.replay service actions) ∧
      (u.replay service actions).corner i =
        { u.corner i with
          shared := p.shared
          jobs := (u.corner i).jobs ++ p.handed.map (⟨·, client, i⟩)
          compilers := if p.stage.isOver then [] else [⟨client, i, worker, p.stage⟩] } ∧
      (u.replay service actions).busy + worker.toNat =
        u.busy + (worker && !p.stage.isOver).toNat := by
  obtain ⟨k, found, set⟩ := exists_set_of_filter alone
  have mem := List.mem_of_getElem? found
  have here := (sound.compiler mem).1
  have home := sound.home mem carries
  obtain ⟨actions, eq⟩ := replay_compilerAt found here home compiling
  refine ⟨actions, ?_, ?_, ?_⟩ <;> rw [eq]
  · refine follows_reached here p (fun j apart => ?_) fun _ _ => rfl
    exact filter_set_of_neg found (by simp [Ne.symm apart]) (by simp [Ne.symm apart])
  · refine Corner.ext ?_ jobs_handed ((set ⟨client, i, worker, p.stage⟩).trans ?_) rfl
    · exact (slotAt_set u i here i).trans (if_pos rfl)
    · cases p.stage.isOver <;> simp
  · have count := countP_set_add (fun t : Thread => t.worker && !t.stage.isOver) found
      ⟨client, i, worker, p.stage⟩
    simpa [Stage.not_over_of_carries carries, busy, compilerAt] using count

/-- The phase of a discard that is over. -/
def removalPhase (service : Service σ) (u : Threads σ) (client : String) (i : Nat) (r : Removal) :
    Phase RemoverStage σ where
  stage := .ended
  shared := u.slotAt i
  service :=
    if r.maybeStored then (service.remove (listIdentifier client) u.service).2 else u.service
  told := .discard client r.hadArtifact :: Notice.issue client r
  handed := []
  dropped := (u.slotAt i).isIdle

theorem removing_over (service : Service σ) (r : Removal) (free : (u.slotAt i).locked = false) :
    Removing service client r (.start .waiting (u.slotAt i) u.service)
      (removalPhase service u client i r) := by
  let x := u.slotAt i
  let told : Phase RemoverStage σ :=
    { removalPhase service u client i r with
      stage := .told
      shared := { x with locked := true }
      told := Notice.issue client r
      dropped := false }
  have begins : Removing service client r (.start .waiting x u.service)
      (.start .locked { x with locked := true } u.service) := .single ⟨_, .lock free, rfl⟩
  have tells : Removing service client r (.start .locked { x with locked := true } u.service)
      told := by
    cases stored : r.maybeStored with
    | true =>
      refine .single ⟨_, .tell stored, ?_⟩
      simp [told, removalPhase, Phase.moved, Phase.start, Notice.issue, stored]
    | false =>
      refine .single ⟨_, .spare stored, ?_⟩
      simp [told, removalPhase, Phase.moved, Phase.start, Notice.issue, stored]
  have unlocks : Removing service client r told { told with stage := .unlocked, shared := x } := by
    have unlocked : { x with locked := false } = x := by rw [← free]
    refine .single ⟨_, .unlock, ?_⟩
    simp [told, removalPhase, Phase.moved, unlocked]
  refine ((begins.trans tells).trans unlocks).trans (.single ⟨_, .finish, ?_⟩)
  simp [told, removalPhase, Phase.moved, x]

/-- The discard that waits first takes effect when nobody holds the lock. -/
theorem exists_remove (service : Service σ) (sound : u.Sound)
    (home : u.table.get? client = some i) {r : Removal} {rest : List Remover}
    (first : (u.corner i).removers = ⟨client, i, r, .waiting⟩ :: rest)
    (free : (u.slotAt i).locked = false) :
    ∃ actions, u.Follows client i (removalPhase service u client i r) (u.replay service actions) ∧
      (u.replay service actions).corner i = { u.corner i with removers := rest } ∧
      (u.replay service actions).busy = u.busy := by
  obtain ⟨k, found, set⟩ := exists_set_of_filter first
  have here := sound.table home
  obtain ⟨actions, eq⟩ :=
    replay_removerAt found here home (removing_over service r free)
  refine ⟨actions, ?_, ?_, ?_⟩ <;> rw [eq]
  · refine follows_reached here _ (fun _ _ => rfl) fun j apart => ?_
    exact filter_set_of_neg found (by simp [Ne.symm apart]) (by simp [Ne.symm apart])
  · refine Corner.ext ?_ (congrArg (List.filter _) (List.append_nil _)) rfl
      ((set ⟨client, i, r, .ended⟩).trans (if_neg (by simp)))
    exact (slotAt_set u i here i).trans (if_pos rfl)
  · rfl

end Threads

end ContentBlocker
