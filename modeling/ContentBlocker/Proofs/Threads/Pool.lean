import ContentBlocker.Proofs.Threads.Locks

/-!
# The pool

A client never has more than one worker, however often its compilation was asked for: while a worker
has something to do for it, nothing of the client waits for another one.  Once the pool takes no new
work the count can only fall; before that, whoever has something to do sees to the slot of the
client, and nobody else does.
-/

namespace ContentBlocker

variable {σ : Type}

/-- The tickets that the pool has not taken from the thread. -/
def Stage.refused : Stage → List Nat
  | handing refused | starting _ refused | refusing refused => refused
  | _ => []

theorem Stage.carries_of_not_over {stage : Stage} (refused : stage.refused = [])
    (busy : stage.isOver = false) : stage.carries = true := by
  cases stage with
  | refusing tickets =>
    obtain rfl : tickets = [] := refused
    cases busy
  | _ => rfl

namespace Compiles

variable {service : Service σ} {client : String} {accepting : Bool} {rules : List Rule}
  {x : SharedSlot} {state : σ} {stage : Stage} {m : Move Stage σ}

theorem not_over (moves : Compiles service client accepting rules x state stage m) :
    stage.isOver = false := by
  cases moves <;> rfl

theorem refused (moves : Compiles service client accepting rules x state stage m)
    (accepts : accepting = true) (none : stage.refused = []) : m.stage.refused = [] := by
  cases moves with
  | take | finish | hand => exact none
  | refuse refuses => rw [accepts] at refuses; cases refuses
  | tell => cases none
  | _ => rfl

theorem handed (moves : Compiles service client accepting rules x state stage m)
    (refuses : accepting = false) : m.handed = none := by
  cases moves with
  | hand accepts => rw [refuses] at accepts; cases accepts
  | _ => rfl

end Compiles

namespace Threads

/-- The number of workers that have something to do for a client. -/
def occupied (s : Threads σ) (client : String) : Nat :=
  s.compilers.countP fun t => t.client = client && (t.worker && !t.stage.isOver)

/-- The number of workers that a client has or waits for. -/
def claimed (s : Threads σ) (client : String) : Nat :=
  s.line.countP (·.client = client) + s.occupied client

structure Staffed (s : Threads σ) : Prop where
  sound : s.Sound
  within : s.busy ≤ s.workers
  refused : s.accepting = true → ∀ t ∈ s.compilers, t.stage.refused = []
  claimed : ∀ client, s.claimed client ≤ 1

/-- While the pool takes work, whoever has something to do sees to the slot of the client. -/
theorem Sound.claimed_le_one {s : Threads σ} (h : s.Sound)
    (refused : ∀ t ∈ s.compilers, t.stage.refused = []) (client : String) :
    s.claimed client ≤ 1 := by
  have carries {t : Thread} (mem : t ∈ s.compilers)
      (busy : (t.client = client && (t.worker && !t.stage.isOver)) = true) :
      t.stage.carries = true ∧ s.table.get? client = some t.slot := by
    simp only [Bool.and_eq_true, decide_eq_true_eq, Bool.not_eq_true'] at busy
    obtain ⟨rfl, -, busy⟩ := busy
    have carries := Stage.carries_of_not_over (refused t mem) busy
    exact ⟨carries, h.home mem carries⟩
  have line {job : Job} (mem : job ∈ s.line) (mine : decide (job.client = client) = true) :
      s.table.get? client = some job.slot :=
    of_decide_eq_true mine ▸ h.line mem
  unfold claimed occupied
  cases there : s.table.get? client with
  | none =>
    rw [List.countP_eq_zero.2, List.countP_eq_zero.2]
    · exact Nat.zero_le _
    · intro t mem busy
      rw [there] at carries
      cases (carries mem busy).2
    · intro job mem mine
      rw [there] at line
      cases line mem mine
  | some i =>
    have waits : s.line.countP (·.client = client) ≤ s.line.countP (·.slot = i) :=
      List.countP_mono_left fun job mem mine =>
        decide_eq_true (Option.some.inj ((line mem mine).symm.trans there))
    have works : (s.compilers.countP fun t => t.client = client && (t.worker && !t.stage.isOver)) ≤
        s.compilers.countP fun t => t.slot = i && t.stage.carries := by
      refine List.countP_mono_left fun t mem busy => ?_
      obtain ⟨carries, home⟩ := carries mem busy
      simp [carries, Option.some.inj (home.symm.trans there)]
    have carried := h.carried i
    have one := Bool.toNat_le (s.slotAt i).running
    unfold carriers at carried
    omega

section Steps

variable {s : Threads σ} {service : Service σ}

theorem Staffed.compile (h : s.Staffed) (k : Nat) : (s.compile service k).Staffed := by
  have sound : (s.compile service k).Sound := h.sound.compile k
  rcases s.compile_cases service k with same | ⟨t, m, found, moves, eq⟩
  · rwa [same]
  have mem := List.mem_of_getElem? found
  have busy : t.stage.isOver = false := moves.not_over
  have compilers : (s.compile service k).compilers =
      s.compilers.set k { t with stage := m.stage } := by
    rw [eq, moved_compilers]
    rfl
  have accepting : (s.compile service k).accepting = s.accepting := by
    rw [eq, moved_accepting]
    rfl
  -- a thread that goes on was counted before
  have fewer (p : Thread → Bool) (only : p { t with stage := m.stage } = true → p t = true) :
      (s.compile service k).compilers.countP p ≤ s.compilers.countP p := by
    have set := countP_set_add p found { t with stage := m.stage }
    have le : (p { t with stage := m.stage }).toNat ≤ (p t).toNat := by
      cases after : p { t with stage := m.stage } with
      | false => exact Nat.zero_le _
      | true => exact Nat.le_of_eq (by rw [only after])
    rw [compilers]
    omega
  have refused (accepts : s.accepting = true) :
      ∀ u ∈ (s.compile service k).compilers, u.stage.refused = [] := by
    intro u among
    rw [compilers] at among
    rcases s.mem_atStage k t m.stage among with before | rfl
    · exact h.refused accepts u before
    · exact moves.refused accepts (h.refused accepts t mem)
  refine ⟨sound, ?_, ?_, ?_⟩
  · have workers : (s.compile service k).workers = s.workers := by
      rw [eq, moved_workers]
      rfl
    rw [workers]
    refine Nat.le_trans (fewer _ fun after => ?_) h.within
    simpa [busy] using (Bool.and_eq_true_iff.1 after).1
  · intro accepts
    exact refused (accepting ▸ accepts)
  · intro client
    cases accepts : s.accepting with
    | true => exact sound.claimed_le_one (refused accepts) client
    | false =>
      have line : (s.compile service k).line = s.line := by
        rw [eq, moved_line, moves.handed accepts]
        exact List.append_nil _
      refine Nat.le_trans ?_ (h.claimed client)
      unfold Threads.claimed Threads.occupied
      rw [line]
      refine Nat.add_le_add_left (fewer _ fun after => ?_) _
      simp only [Bool.and_eq_true, busy, Bool.not_false, and_true] at after ⊢
      exact ⟨after.1, after.2.1⟩

theorem Staffed.pick (h : s.Staffed) : s.pick.Staffed := by
  have sound := h.sound.pick
  unfold Threads.pick at sound ⊢
  split at sound
  · exact h
  · rename_i job rest line
    split at sound
    · rename_i free
      have one : (Stage.entering job.ticket).isOver = false := rfl
      rw [if_pos free]
      refine ⟨sound, ?_, ?_, ?_⟩
      · unfold Threads.busy at free ⊢
        simp only [spawn, List.countP_append, List.countP_singleton, one, Bool.not_false,
          Bool.and_true, if_true]
        omega
      · intro accepts t mem
        rcases List.mem_append.1 mem with before | new
        · exact h.refused accepts t before
        · rw [List.mem_singleton.1 new]
          rfl
      · intro client
        have claimed := h.claimed client
        unfold Threads.claimed Threads.occupied at claimed ⊢
        rw [line, List.countP_cons] at claimed
        simp only [spawn, List.countP_append, List.countP_singleton, one, Bool.not_false,
          Bool.and_true]
        omega
    · rename_i none
      rwa [if_neg none]

/-- A request may start a thread, but not one of the pool. -/
theorem Staffed.ask (h : s.Staffed) {client : String} {i : Nat}
    (there : s.table.get? client = some i) : (s.ask client i).2.Staffed := by
  have sound := h.sound.ask there
  rcases s.ask_cases client i with ⟨ticket, queued, eq⟩ | ⟨queued, running, eq⟩ |
    ⟨queued, idle, eq⟩ <;> rw [eq] at sound ⊢
  · exact ⟨sound, h.within, h.refused, h.claimed⟩
  · exact ⟨sound, h.within, h.refused, h.claimed⟩
  · refine ⟨sound, ?_, ?_, ?_⟩
    · simpa [busy, spawn, put, List.countP_append] using h.within
    · intro accepts t mem
      rcases List.mem_append.1 mem with before | new
      · exact h.refused accepts t before
      · rw [List.mem_singleton.1 new]
        rfl
    · intro other
      simpa [Threads.claimed, occupied, spawn, put, List.countP_append] using h.claimed other

theorem Staffed.remove (h : s.Staffed) (k : Nat) : (s.remove service k).Staffed := by
  have sound : (s.remove service k).Sound := h.sound.remove k
  rcases s.remove_cases service k with same | ⟨r, m, found, moves, eq⟩
  · rwa [same]
  rw [eq] at sound ⊢
  obtain ⟨-, handed⟩ := moves.shared
  refine ⟨sound, ?_, ?_, ?_⟩
  · simpa [busy, removerAtStage] using h.within
  · simpa [removerAtStage] using h.refused
  · simpa [Threads.claimed, occupied, handed, removerAtStage] using h.claimed

theorem Staffed.after (h : s.Staffed) (a : Action σ) : (s.after service a).Staffed := by
  have sound : (s.after service a).Sound := h.sound.after a
  cases a with
  | change | alter => exact ⟨sound, h.within, h.refused, h.claimed⟩
  | shutdown => exact ⟨sound, h.within, fun accepts => (by cases accepts), h.claimed⟩
  | submit client =>
    obtain ⟨opened, there⟩ := h.sound.opened client
    have staffed : (s.opened client).2.Staffed := by
      rw [opened_eq] at opened ⊢
      exact ⟨opened, h.within, h.refused, h.claimed⟩
    exact staffed.ask there
  | discard client =>
    change (s.discard client).Sound at sound
    change (s.discard client).Staffed
    rw [discard_eq] at sound ⊢
    exact ⟨sound, h.within, h.refused, h.claimed⟩
  | pick => exact h.pick
  | compile k => exact h.compile k
  | remove k => exact h.remove k

theorem staffed_fresh (workers : Nat) (limits : Limits) (state : σ) :
    (fresh workers limits state).Staffed :=
  ⟨sound_fresh workers limits state, Nat.zero_le _, fun _ _ mem => (by cases mem),
    fun _ => Nat.zero_le _⟩

theorem staffed_replay (service : Service σ) (workers : Nat) (limits : Limits) (state : σ)
    (actions : List (Action σ)) : ((fresh workers limits state).replay service actions).Staffed :=
  replay_preserves (fun _ a h => h.after a) (staffed_fresh workers limits state) actions

theorem workers_after (s : Threads σ) (service : Service σ) (a : Action σ) :
    (s.after service a).workers = s.workers := by
  cases a with
  | change | alter | shutdown => rfl
  | submit who => exact s.submit_workers who
  | discard who => exact s.discard_workers who
  | pick => exact s.pick_workers
  | compile k =>
    change (s.compile service k).workers = _
    rcases s.compile_cases service k with same | ⟨t, m, -, -, eq⟩
    · rw [same]
    · rw [eq, moved_workers]
      rfl
  | remove k =>
    change (s.remove service k).workers = _
    rcases s.remove_cases service k with same | ⟨r, m, -, -, eq⟩
    · rw [same]
    · rw [eq, moved_workers]
      rfl

theorem workers_replay (service : Service σ) (s : Threads σ) (actions : List (Action σ)) :
    (s.replay service actions).workers = s.workers :=
  replay_preserves (P := fun next => next.workers = s.workers)
    (fun next a h => (workers_after next service a).trans h) rfl actions

end Steps

end Threads

end ContentBlocker
