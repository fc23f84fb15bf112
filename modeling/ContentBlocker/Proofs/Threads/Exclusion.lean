import ContentBlocker.Proofs.Compile.Coalescing
import ContentBlocker.Proofs.Threads.Calls

/-!
# One call at a time

One compilation of an identifier at most is at the service.  A discard waits for the thread that
holds the lock of its slot, so its removal meets no compilation of that slot.  It meets one if the
slot was dropped in the meantime and the client has another one by then.  Compilations that have not
taken the lock are not waited for.  `removal_meets_compilation_iff` collects what holds in every
run.
-/

namespace ContentBlocker

variable {σ : Type}

namespace Threads

variable {s : Threads σ} {service : Service σ} {client : String}

/-- No thread can go on. -/
def IsStuck (service : Service σ) (s : Threads σ) : Prop :=
  (∀ t ∈ s.compilers,
    t.move service s.service s.accepting (s.rulesOf t.client) (s.slotAt t.slot) = none) ∧
  ∀ r ∈ s.removers, r.move service s.service (s.slotAt r.slot) = none

/-- Threads do not wait for each other in a circle: when none can go on, each is done. -/
theorem Sound.over_of_stuck (h : s.Sound) (stuck : s.IsStuck service) :
    (∀ t ∈ s.compilers, t.stage.isOver = true) ∧ ∀ r ∈ s.removers, r.stage = .ended := by
  obtain ⟨compilers, removers⟩ := stuck
  simp only [Thread.move_eq_none, Remover.move_eq_none] at compilers removers
  -- who holds a lock can go on
  have free (i : Nat) : (s.slotAt i).locked = false := by
    have held := h.held i
    rw [holders, List.countP_eq_zero.2, List.countP_eq_zero.2] at held
    · cases locked : (s.slotAt i).locked with
      | false => rfl
      | true => rw [locked] at held; cases held
    · intro r mem holds
      rcases removers r mem with ended | ⟨waits, -⟩
      · simp [ended, RemoverStage.locks] at holds
      · simp [waits, RemoverStage.locks] at holds
    · intro t mem holds
      obtain ⟨-, locks⟩ := Bool.and_eq_true_iff.1 holds
      rcases compilers t mem with ended | ⟨⟨ticket, enters⟩, -⟩
      · rw [Stage.not_over_of_carries (Stage.carries_of_locks locks)] at ended
        cases ended
      · rw [enters] at locks
        cases locks
  constructor
  · intro t mem
    rcases compilers t mem with ended | ⟨-, locked⟩
    · exact ended
    · rw [free] at locked
      cases locked
  · intro r mem
    rcases removers r mem with ended | ⟨-, locked⟩
    · exact ended
    · rw [free] at locked
      cases locked

theorem Sound.due_of_stuck (h : s.Sound) (stuck : s.IsStuck service) : s.due client = 0 := by
  refine List.countP_eq_zero.2 fun r mem => ?_
  simp [Remover.isDue, (h.over_of_stuck stuck).2 r mem]

/-- The discard waits for the thread, or the thread has given back the lock. -/
def Waits (k n : Nat) (r : Remover) (s : Threads σ) : Prop :=
  ∃ t, s.compilers[k]? = some t ∧
    (t.stage.hasLeft = true ∨
      t.stage.locks = true ∧ t.slot = r.slot ∧ s.removers[n]? = some r)

theorem Waits.after {k n : Nat} {r : Remover} (sound : s.Sound) (waiting : r.stage = .waiting)
    (h : s.Waits k n r) (a : Action σ) : (s.after service a).Waits k n r := by
  obtain ⟨t, found, stage⟩ := h
  rcases getElem?_compilers_after service found a with
    stays | ⟨rfl, m, moves, eq⟩
  · refine ⟨t, stays, stage.imp_right fun ⟨locks, slot, remover⟩ => ⟨locks, slot, ?_⟩⟩
    rcases getElem?_removers_after service remover a with stays | ⟨-, m, moves, -⟩
    · exact stays
    · -- the discard cannot take the lock that the thread holds
      have locked := sound.locked (List.mem_of_getElem? found) locks
      rw [slot] at locked
      rw [waiting] at moves
      cases moves with
      | lock free => rw [locked] at free; cases free
  · have next : (s.after service (.compile k)).compilers[k]? =
        some { t with stage := m.stage } := by rw [eq, getElem?_turned _ _ _ found]
    refine ⟨_, next, ?_⟩
    rcases stage with left | ⟨locks, slot, remover⟩
    · exact .inl (moves.hasLeft left)
    · rcases moves.locks_or_hasLeft locks with locks | left
      · refine .inr ⟨locks, slot, ?_⟩
        rw [eq, moved_removers]
        exact remover
      · exact .inl left

theorem Waits.replay {k n : Nat} {r : Remover} (sound : s.Sound) (waiting : r.stage = .waiting)
    (h : s.Waits k n r) (service : Service σ) (actions : List (Action σ)) :
    (s.replay service actions).Waits k n r :=
  sound.replay_preserves (P := fun s => s.Waits k n r)
    (fun _ a sound h => h.after sound waiting a) h actions

/-- A discard waits for the thread that holds the lock. -/
theorem Sound.waits_discard (h : s.Sound) {k : Nat} {t : Thread} (found : s.compilers[k]? = some t)
    (locks : t.stage.locks = true) :
    (s.discard t.client).Waits k s.removers.length
      ⟨t.client, t.slot, (s.slotAt t.slot).cell.removal, .waiting⟩ := by
  have there := h.home (List.mem_of_getElem? found) (Stage.carries_of_locks locks)
  unfold Threads.discard
  rw [there]
  exact ⟨t, found, .inr ⟨locks, rfl, List.getElem?_concat_length⟩⟩

/-- A discard does not wait for compilations that have yet to take the lock. -/
theorem callLog_discard_of_free (s : Threads σ) (service : Service σ) {i : Nat}
    (here : i < s.slots.length) (there : s.table.get? client = some i)
    (free : (s.slotAt i).locked = false) :
    let n := s.removers.length
    callLog client (s.replay service [.discard client, .remove n, .remove n]).trace =
      (if s.hasList client then [.remove client] else []) ++ callLog client s.trace := by
  intro n
  let r : Remover := ⟨client, i, (s.slotAt i).cell.removal, .waiting⟩
  let first := s.discard client
  have discarded :
      first = { s.put i (s.slotAt i).discarded with removers := s.removers ++ [r] } := by
    simp only [first, Threads.discard, there]
    rfl
  have found : first.removers[n]? = some r := by
    rw [discarded]
    exact List.getElem?_concat_length
  have slot : first.slotAt i = (s.slotAt i).discarded := by
    rw [discarded]
    exact (slotAt_put s i here i).trans (if_pos rfl)
  have lock := remove_of_moves first service found (.lock (slot ▸ free))
  let second := first.remove service n
  have found : second.removers[n]? = some { r with stage := .locked } := by
    change (first.remove service n).removers[n]? = _
    rw [lock, moved_removers, removerAtStage, List.getElem?_set_self]
    exact (List.getElem?_eq_some_iff.1 found).1
  have trace : callLog client second.trace = callLog client s.trace := by
    change callLog client (first.remove service n).trace = _
    rw [lock, moved_trace, discarded]
    rfl
  have listed : s.hasList client = r.removal.maybeStored := by
    rw [hasList, slotOf, there]
    rfl
  change callLog client (second.remove service n).trace = _
  cases stored : r.removal.maybeStored with
  | true =>
    rw [remove_of_moves second service found (.tell stored), moved_trace, callLog_append, listed,
      stored]
    refine congr (congrArg _ ?_) trace
    simp [callLog, Notice.IsCallFor, r]
  | false =>
    rw [remove_of_moves second service found (.spare stored), moved_trace, listed, stored]
    exact trace

/-! ## Calls -/

/-- What an action adds to the calls for a client. -/
theorem callLog_after (s : Threads σ) (service : Service σ) (client : String) (a : Action σ) :
    callLog client (s.after service a).trace = callLog client s.trace ∨
      (∃ k t f accepted, a = .compile k ∧ s.compilers[k]? = some t ∧ t.client = client ∧
        t.stage = .calling f ∧ callLog client (s.after service a).trace =
          .compile client f.conversion.document accepted :: callLog client s.trace) ∨
      ∃ k r, a = .remove k ∧ s.removers[k]? = some r ∧ r.client = client ∧ r.stage = .locked ∧
        r.removal.maybeStored = true ∧
        callLog client (s.after service a).trace = .remove client :: callLog client s.trace := by
  rcases s.trace_after service a with eq | ⟨k, t, m, rfl, found, moves, eq⟩ |
    ⟨k, r, m, rfl, found, moves, eq⟩
  · exact .inl (by rw [eq])
  · rw [eq, callLog_append]
    by_cases here : t.client = client
    · generalize at_stage : t.stage = stage at moves
      cases moves with
      | @answer f answer next answered =>
        refine .inr (.inl ⟨k, t, f, answer.isOk, rfl, found, here, at_stage, ?_⟩)
        simp [callLog, Notice.IsCallFor, here]
      | _ => exact .inl rfl
    · exact .inl (by rw [moves.callLog_of_ne here, List.nil_append])
  · rw [eq, callLog_append]
    by_cases here : r.client = client
    · generalize at_stage : r.stage = stage at moves
      cases moves with
      | tell stored =>
        refine .inr (.inr ⟨k, r, rfl, found, here, at_stage, stored, ?_⟩)
        simp [callLog, Notice.IsCallFor, here]
      | _ => exact .inl rfl
    · exact .inl (by rw [moves.callLog_of_ne here, List.nil_append])

/-- A removal meets a compilation if the client has another slot by then, and a thread at the
service. -/
theorem Sound.meets_iff (h : s.Sound) {r : Remover} (mem : r ∈ s.removers)
    (holds : r.stage.locks = true) :
    0 < s.inProgress (listIdentifier r.client) ↔
      ∃ i, s.table.get? r.client = some i ∧ i ≠ r.slot ∧
        ∃ t ∈ s.compilers, t.slot = i ∧ t.stage.isCalling = true := by
  rw [inProgress_pos]
  constructor
  · rintro ⟨t, among, same, calling⟩
    have home := h.home among (Stage.carries_of_isCalling calling)
    exact ⟨t.slot, same ▸ home, h.apart_of_locks mem holds among calling, t, among, rfl, calling⟩
  · rintro ⟨_, there, -, t, among, rfl, calling⟩
    have home := h.home among (Stage.carries_of_isCalling calling)
    exact ⟨t, among, h.apart there home, calling⟩

/-! ## Runs -/

/-- The calls for a client in every run.  At every instant no more than one compilation is in
progress for an identifier, and a client has or waits for one worker.  There are no more
compilations than tickets.  Each discard that finds a list in use or being compiled has one removal,
which is issued before all threads are done, and no other discard has one.  A discard waits for the
thread that holds the lock of the client's slot, and for no other.  Its removal is issued while a
compilation of the client is in progress just if the client has another slot by then, and a thread
at the service. -/
theorem removal_meets_compilation_iff (service : Service σ) (workers : Nat) (limits : Limits)
    (state : σ) (before later : List (Action σ)) (client : String) :
    let first := fresh workers limits state
    let s := first.replay service before
    let log := fun s : Threads σ => callLog client s.trace
    let n := s.removers.length
    (∀ identifier, s.inProgress identifier ≤ 1) ∧
      s.busy ≤ workers ∧
      s.claimed client ≤ 1 ∧
      (log s).countP Notice.isCompilation + s.inProgress (listIdentifier client) ≤
        s.asked.count client ∧
      (log s).countP Notice.isRemoval + s.due client = discardsOfLists service client first before ∧
      (s.IsStuck service → s.due client = 0) ∧
      (∀ (k : Nat) (t : Thread), s.compilers[k]? = some t → t.client = client →
        t.stage.locks = true →
        let run := s.replay service (.discard client :: later)
        ∃ u : Thread, run.compilers[k]? = some u ∧
          (u.stage.hasLeft = true ∨ u.stage.locks = true ∧ run.removers[n]? =
            some ⟨client, t.slot, (s.slotAt t.slot).cell.removal, .waiting⟩)) ∧
      (∀ i, s.table.get? client = some i → (s.slotAt i).locked = false →
        log (s.replay service [.discard client, .remove n, .remove n]) =
          (if s.hasList client then [.remove client] else []) ++ log s) ∧
      ∀ a,
        let next := s.after service a
        log next = log s ∨
          (∃ document accepted, log next = .compile client document accepted :: log s) ∨
          ∃ k r, a = .remove k ∧ s.removers[k]? = some r ∧ r.client = client ∧
            log next = .remove client :: log s ∧
            (0 < s.inProgress (listIdentifier client) ↔
              ∃ i, s.table.get? client = some i ∧ i ≠ r.slot ∧
                ∃ t ∈ s.compilers, t.slot = i ∧ t.stage.isCalling = true) := by
  intro first s log n
  have staffed : s.Staffed := staffed_replay service workers limits state before
  have sound : s.Sound := staffed.sound
  refine ⟨sound.inProgress_le_one, ?_, staffed.claimed client, ?_, ?_, sound.due_of_stuck, ?_,
    ?_, ?_⟩
  · have workers : s.workers = workers := workers_replay service _ before
    exact workers ▸ staffed.within
  · have covered : s.Covered client := covered_replay service workers limits state before client
    refine Nat.le_trans (Nat.add_le_add_left ?_ _) covered
    exact inProgress_le_ahead s client
  · have asked := removalsAsked_replay first service client before
    have none : first.removalsAsked client = 0 := rfl
    rwa [none, Nat.zero_add] at asked
  · rintro k t found rfl locks run
    obtain ⟨u, there, stage⟩ :=
      (sound.waits_discard found locks).replay (sound.discard t.client) rfl service later
    exact ⟨u, there, stage.imp_right fun ⟨locks, _, remover⟩ => ⟨locks, remover⟩⟩
  · intro i there free
    exact callLog_discard_of_free s service (sound.table there) there free
  · intro a next
    rcases callLog_after s service client a with same | ⟨_, _, _, accepted, -, -, -, -, eq⟩ |
      ⟨k, r, rfl, found, rfl, locked, -, eq⟩
    · exact .inl same
    · exact .inr (.inl ⟨_, accepted, eq⟩)
    · have holds : r.stage.locks = true := by rw [locked]; rfl
      exact .inr (.inr ⟨k, r, rfl, found, rfl, eq,
        sound.meets_iff (List.mem_of_getElem? found) holds⟩)

/-- An action that gives a client a rule that blocks everything. -/
def addRule (client : String) (id : Int) : Action σ :=
  .change (.updateTier client .dynamic [.blockAll id] [])

/-- The steps of a thread up to the service. -/
def approach (k : Nat) : List (Action σ) := List.replicate 4 (.compile k)

/-- The actions up to the first call of the service, which is for the client. -/
def firstCall (client : String) : List (Action σ) :=
  addRule client 1 :: .submit client :: .compile 0 :: .pick :: approach 1

/-- While the thread puts down what the service has answered, a discard waits for it. -/
theorem discard_waits :
    let s := (fresh 1 .standard ()).replay .lenient (firstCall "e")
    let run := s.replay .lenient [.discard "e", .remove 0, .compile 1, .remove 0]
    run.removers[0]? = some ⟨"e", 0, ⟨false, true⟩, .waiting⟩ := by
  intro s run
  have locks : (s.compilers[1]?.map fun t => (t.client, t.slot, t.stage.locks)) =
      some ("e", 0, true) := by decide +kernel
  have stays : (run.compilers[1]?.map fun t => t.stage.hasLeft) = some false := by decide +kernel
  have removal : (s.slotAt 0).cell.removal = ⟨false, true⟩ := by decide +kernel
  obtain ⟨t, found, at_stage⟩ := Option.map_eq_some_iff.1 locks
  obtain ⟨client, slot, locks⟩ : t.client = "e" ∧ t.slot = 0 ∧ t.stage.locks = true := by
    simpa using at_stage
  obtain ⟨-, -, -, -, -, -, waits, -⟩ := removal_meets_compilation_iff .lenient 1 .standard ()
    (firstCall "e") [.remove 0, .compile 1, .remove 0] "e"
  obtain ⟨u, there, left | ⟨-, waiting⟩⟩ := waits 1 t found client locks
  · rw [there] at stays
    cases left.symm.trans (Option.some.inj stays)
  · rwa [slot, removal] at waiting

/-- A removal is issued while a compilation of the identifier is in progress: the thread that the
discard waits for drops the slot, and the client comes back before the discard goes on.  A discard
issues its removal before a compilation that waits for a worker has been at the service. -/
theorem removal_meets_compilation :
    let start := (fresh 1 .standard ()).replay .lenient
      [addRule "d" 1, addRule "e" 1, .submit "e", .compile 0, .pick]
    let back := start.replay .lenient <| List.flatten
      [approach 1, [.discard "e"], List.replicate 5 (.compile 1), [.submit "e", .compile 2, .pick],
        approach 3, [.remove 0]]
    let full := start.replay .lenient <| List.flatten
      [List.replicate 9 (.compile 1), [.submit "d", .compile 2, .pick], approach 3,
        [.submit "e", .compile 4]]
    let last := full.replay .lenient [.discard "e", .remove 0, .remove 0]
    let removals := fun s : Threads Unit => (callLog "e" s.trace).countP Notice.isRemoval
    (back.inProgress (listIdentifier "e") = 1 ∧ removals back = 0 ∧
        removals (back.after .lenient (.remove 0)) = 1) ∧
      full.hasList "e" = true ∧ full.line = [⟨2, "e", 0⟩] ∧ last.line = full.line ∧
        removals full = 0 ∧ removals last = 1 := by
  decide +kernel

end Threads

end ContentBlocker
