import ContentBlocker.Proofs.Compile.Archive
import ContentBlocker.Proofs.Compile.Calls
import ContentBlocker.Proofs.Threads.Pool

/-!
# Calls of threads

The calls of threads to the service are counted against what was asked for: compilations against
tickets, and removals against the discards that found something to remove.
-/

namespace ContentBlocker

variable {σ : Type}

namespace Notice

def isCompilation : Notice → Bool
  | .compile .. => true
  | _ => false

def isRemoval : Notice → Bool
  | .remove _ => true
  | _ => false

end Notice

namespace Stage

/-- The thread is at the service. -/
def isCalling : Stage → Bool
  | calling _ => true
  | _ => false

/-- The thread is to call the service and come back, or to give the pool a thread that will. -/
def isAhead : Stage → Bool
  | entering _ | locked _ | begun .. | loaded _ | calling _ | starting .. => true
  | _ => false

theorem carries_of_isCalling {stage : Stage} (calling : stage.isCalling = true) :
    stage.carries = true := by
  cases stage <;> first | rfl | cases calling

theorem locks_of_isCalling {stage : Stage} (calling : stage.isCalling = true) :
    stage.locks = true := by
  cases stage <;> first | rfl | cases calling

theorem isAhead_of_isCalling {stage : Stage} (calling : stage.isCalling = true) :
    stage.isAhead = true := by
  cases stage <;> first | rfl | cases calling

end Stage

/-- The discard may still tell the service to remove the list. -/
def Remover.isDue (r : Remover) : Bool :=
  r.removal.maybeStored && (r.stage = .waiting || r.stage = .locked)

/-! ## Moves -/

section Moves

variable {service : Service σ} {client : String} {accepting : Bool} {rules : List Rule}
  {x : SharedSlot} {state : σ}

namespace Compiles

variable {stage : Stage} {m : Move Stage σ}

/-- Each call takes a ticket. -/
theorem credit (moves : Compiles service client accepting rules x state stage m) :
    (callLog client m.told.toList).countP Notice.isCompilation + m.stage.isAhead.toNat +
        m.handed.isSome.toNat + m.shared.queued.isSome.toNat ≤
      stage.isAhead.toNat + x.queued.isSome.toNat := by
  cases moves with
  | skip =>
    rw [SharedSlot.skip_eq]
    exact Nat.le_refl _
  | answer => simp [callLog, Notice.IsCallFor, Notice.isCompilation, Stage.isAhead]
  | take queued | finish queued => simp [callLog, Stage.isAhead, queued]
  | complete | tell => simp [callLog, Notice.IsCallFor, Stage.isAhead]
  | _ => simp [callLog, Stage.isAhead, SharedSlot.record]

theorem callLog_of_ne (moves : Compiles service client accepting rules x state stage m)
    {other : String} (ne : client ≠ other) : callLog other m.told.toList = [] := by
  cases moves with
  | answer => simp [callLog, Notice.IsCallFor, ne]
  | _ => rfl

/-- Threads that compile do not remove anything. -/
theorem removals (moves : Compiles service client accepting rules x state stage m)
    (other : String) : (callLog other m.told.toList).countP Notice.isRemoval = 0 := by
  cases moves with
  | answer =>
    rw [List.countP_eq_zero]
    intro n mem
    obtain ⟨mem, -⟩ := List.mem_filter.1 mem
    rw [List.mem_singleton.1 mem]
    exact Bool.false_ne_true
  | _ => rfl

/-- A thread that has nothing to see to changes nothing of a slot. -/
theorem shared_of_refusing (moves : Compiles service client accepting rules x state stage m)
    (refusing : stage.carries = false) : m.shared = x ∧ m.ends = false := by
  cases moves with
  | tell => exact ⟨rfl, rfl⟩
  | _ => cases refusing

end Compiles

namespace Removes

variable {r : Removal} {stage : RemoverStage} {m : Move RemoverStage σ}

theorem queued (moves : Removes service client r x state stage m) : m.shared.queued = x.queued := by
  rw [moves.shared.1]

theorem compilations (moves : Removes service client r x state stage m) (other : String) :
    (callLog other m.told.toList).countP Notice.isCompilation = 0 := by
  cases moves with
  | tell =>
    rw [List.countP_eq_zero]
    intro n mem
    obtain ⟨mem, -⟩ := List.mem_filter.1 mem
    rw [List.mem_singleton.1 mem]
    exact Bool.false_ne_true
  | _ => rfl

/-- A removal that is due is told, or stays due. -/
theorem removals (moves : Removes service client r x state stage m) :
    (callLog client m.told.toList).countP Notice.isRemoval +
        (r.maybeStored && (m.stage = .waiting || m.stage = .locked)).toNat =
      (r.maybeStored && (stage = .waiting || stage = .locked)).toNat := by
  cases moves with
  | tell stored => simp [callLog, Notice.IsCallFor, Notice.isRemoval, stored]
  | spare none => simp [callLog, none]
  | finish => simp [callLog, Notice.IsCallFor]
  | _ => simp [callLog]

theorem callLog_of_ne (moves : Removes service client r x state stage m) {other : String}
    (ne : client ≠ other) : callLog other m.told.toList = [] := by
  cases moves with
  | tell => simp [callLog, Notice.IsCallFor, ne]
  | _ => rfl

end Removes

end Moves

namespace Threads

/-! ## Compilations and tickets -/

/-- The number of compilations that are queued for a client. -/
def queuedOf (s : Threads σ) (client : String) : Nat :=
  ((s.table.get? client).map fun i => (s.slotAt i).queued.isSome.toNat).getD 0

/-- The number of calls that are still to be made to compile for a client. -/
def ahead (s : Threads σ) (client : String) : Nat :=
  (s.compilers.countP fun t => t.client = client && t.stage.isAhead) +
    s.line.countP (·.client = client) + s.queuedOf client

/-- Each call to compile for a client, made or ahead, has a ticket of its own. -/
def Covered (s : Threads σ) (client : String) : Prop :=
  (callLog client s.trace).countP Notice.isCompilation + s.ahead client ≤ s.asked.count client

section Queued

variable {s : Threads σ} {client : String} {i : Nat}

theorem queuedOf_eq (there : s.table.get? client = some i) :
    s.queuedOf client = (s.slotAt i).queued.isSome.toNat := by
  rw [queuedOf, there]
  rfl

/-- Changing the slot of a client changes what is queued for the client only. -/
theorem queuedOf_set {next : Threads σ} {x : SharedSlot} (h : s.Placed)
    (there : s.table.get? client = some i) (table : next.table = s.table)
    (slots : next.slots = s.slots.set i x) (other : String) :
    next.queuedOf other = if client = other then x.queued.isSome.toNat else s.queuedOf other := by
  have slot (j : Nat) : next.slotAt j = if i = j then x else s.slotAt j := by
    rw [slotAt, slots, slotAt_set s i (h.table there)]
  unfold queuedOf
  rw [table]
  split
  · rename_i same
    rw [← same, there]
    simp [slot]
  · rename_i ne
    cases theirs : s.table.get? other with
    | none => rfl
    | some j =>
      have apart : i ≠ j := by
        rintro rfl
        exact ne (h.apart theirs there)
      simp [slot, apart]

section Moved

variable {α : Type} (m : Move α σ) (refers : s.Refers client i) {other : String}

include refers

theorem queuedOf_moved_le (there : s.table.get? other = some i) :
    (s.moved client i m).queuedOf other ≤ m.shared.queued.isSome.toNat := by
  unfold queuedOf
  rw [get?_moved s client m refers.1, there]
  split
  · exact Nat.zero_le _
  · simp [slotAt_moved s client m refers.1]

theorem queuedOf_moved_of_ne (gone : s.table.get? other ≠ some i) :
    (s.moved client i m).queuedOf other = s.queuedOf other := by
  unfold queuedOf
  rw [get?_moved s client m refers.1, if_neg]
  · cases theirs : s.table.get? other with
    | none => rfl
    | some j =>
      have apart : i ≠ j := by
        rintro rfl
        exact gone theirs
      simp [slotAt_moved s client m refers.1, apart]
  · rintro ⟨-, -, there, rfl⟩
    exact gone there

end Moved

end Queued

section Steps

variable {s : Threads σ} {service : Service σ} {client : String}

theorem Covered.compile (sound : s.Sound) (h : s.Covered client) (k : Nat) :
    (s.compile service k).Covered client := by
  rcases s.compile_cases service k with same | ⟨t, m, found, moves, eq⟩
  · rwa [same]
  have refers := sound.compiler (List.mem_of_getElem? found)
  have credit := moves.credit
  have set := countP_set_add (fun u => u.client = client && u.stage.isAhead) found
    { t with stage := m.stage }
  rw [eq]
  unfold Covered ahead at h ⊢
  rw [moved_trace, moved_line, moved_compilers, moved_asked, callLog_append, List.countP_append,
    List.countP_append]
  simp only [atStage] at h set ⊢
  by_cases here : t.client = client
  · subst here
    have handed : (m.handed.map (Job.mk · t.client t.slot)).toList.countP
        (fun job => job.client = t.client) = m.handed.isSome.toNat := by
      cases m.handed <;> simp
    simp only [handed, decide_true, Bool.true_and] at set h ⊢
    by_cases there : s.table.get? t.client = some t.slot
    · have queued := queuedOf_moved_le (s := s.atStage k t m.stage) m refers there
      rw [queuedOf_eq there] at h
      simp only [atStage] at queued
      omega
    · -- nobody sees to a slot that the client does not have any more
      have queued : _ = s.queuedOf t.client :=
        queuedOf_moved_of_ne (s := s.atStage k t m.stage) m refers there
      have refusing : t.stage.carries = false := by
        by_contra carries
        exact there (sound.home (List.mem_of_getElem? found) (by simpa using carries))
      rw [(moves.shared_of_refusing refusing).1] at credit
      simp only [atStage] at queued
      omega
  · have handed : (m.handed.map (Job.mk · t.client t.slot)).toList.countP
        (fun job => job.client = client) = 0 := by
      cases m.handed <;> simp [here]
    have queued : _ = s.queuedOf client :=
      queuedOf_moved_of_ne (s := s.atStage k t m.stage) m refers
        fun there => here (refers.2 client there).symm
    simp only [handed, moves.callLog_of_ne here, here, decide_false, Bool.false_and,
      List.countP_nil, Bool.toNat_false, atStage] at set queued ⊢
    omega

theorem Covered.remove (sound : s.Sound) (h : s.Covered client) (k : Nat) :
    (s.remove service k).Covered client := by
  rcases s.remove_cases service k with same | ⟨r, m, found, moves, eq⟩
  · rwa [same]
  have refers := sound.remover (List.mem_of_getElem? found)
  have queued : ((s.removerAtStage k r m.stage).moved r.client r.slot m).queuedOf client ≤
      s.queuedOf client := by
    by_cases there : s.table.get? client = some r.slot
    · rw [queuedOf_eq there, ← moves.queued]
      exact queuedOf_moved_le (s := s.removerAtStage k r m.stage) m refers there
    · exact Nat.le_of_eq
        (queuedOf_moved_of_ne (s := s.removerAtStage k r m.stage) m refers there)
  rw [eq]
  unfold Covered ahead at h ⊢
  rw [moved_trace, moved_line, moved_compilers, moved_asked, callLog_append, List.countP_append,
    moves.compilations, moves.shared.2]
  simp only [Option.map_none, Option.toList_none, List.append_nil, removerAtStage] at queued ⊢
  omega

theorem Covered.opened (h : s.Covered client) (who : String) :
    (s.opened who).2.Covered client := by
  unfold Threads.opened
  split
  · exact h
  · rename_i absent
    refine Nat.le_trans (Nat.add_le_add_left (Nat.add_le_add_left ?_ _) _) h
    unfold queuedOf
    rw [get?_addSlot]
    split
    · have new : s.slotAt s.slots.length = .empty := s.slotAt_of_le (Nat.le_refl _)
      simp [new, SharedSlot.empty]
    · simp

/-- A change of the slot of a client that keeps the count of its calls. -/
theorem Covered.changed (placed : s.Placed) (h : s.Covered client) {who : String} {i : Nat}
    (there : s.table.get? who = some i) {next : Threads σ} {x : SharedSlot}
    (table : next.table = s.table) (slots : next.slots = s.slots.set i x)
    (trace : next.trace = s.trace) (line : next.line = s.line)
    (credit :
      (next.compilers.countP fun t => t.client = client && t.stage.isAhead) +
          (if who = client then x.queued.isSome.toNat else 0) + s.asked.count client ≤
        (s.compilers.countP fun t => t.client = client && t.stage.isAhead) +
          (if who = client then (s.slotAt i).queued.isSome.toNat else 0) +
          next.asked.count client) :
    next.Covered client := by
  have queued := queuedOf_set placed there table slots client
  unfold Covered ahead at h ⊢
  rw [trace, line, queued]
  by_cases here : who = client
  · subst here
    rw [queuedOf_eq there] at h
    simp only [if_true] at credit ⊢
    omega
  · simp only [here, if_false] at credit ⊢
    omega

/-- A request that is not shared gives the client a ticket. -/
theorem Covered.ask (sound : s.Sound) (h : s.Covered client) {who : String} {i : Nat}
    (there : s.table.get? who = some i) : (s.ask who i).2.Covered client := by
  rcases s.ask_cases who i with ⟨ticket, queued, eq⟩ | ⟨queued, running, eq⟩ |
    ⟨queued, idle, eq⟩ <;> rw [eq] <;> refine h.changed sound.toPlaced there rfl rfl rfl rfl ?_
  · exact Nat.le_refl _
  · by_cases here : who = client
    · simp [Threads.put, queued, here]
      omega
    · simp [Threads.put, here]
  · by_cases here : who = client
    · simp [Threads.put, spawn, wanted, queued, here, Stage.isAhead, List.countP_append]
      omega
    · simp [Threads.put, spawn, here, List.countP_append]

theorem Covered.discard (sound : s.Sound) (h : s.Covered client) (who : String) :
    (s.discard who).Covered client := by
  unfold Threads.discard
  split
  · exact h
  · rename_i i there
    exact h.changed sound.toPlaced there rfl rfl rfl rfl (Nat.le_refl _)

theorem Covered.pick (h : s.Covered client) : s.pick.Covered client := by
  unfold Threads.pick
  split
  · exact h
  · rename_i job rest line
    split
    · unfold Covered ahead at h ⊢
      rw [line, List.countP_cons] at h
      refine Nat.le_trans (Nat.add_le_add_left ?_ _) h
      change _ + rest.countP (·.client = client) + s.queuedOf client ≤ _
      have one : (Stage.entering job.ticket).isAhead = true := rfl
      simp only [spawn, List.countP_append, List.countP_singleton, one, Bool.and_true]
      omega
    · exact h

theorem Covered.after (sound : s.Sound) (h : s.Covered client) (a : Action σ) :
    (s.after service a).Covered client := by
  cases a with
  | change | alter | shutdown => exact h
  | submit who =>
    obtain ⟨opened, there⟩ := sound.opened who
    exact (h.opened who).ask opened there
  | discard who => exact h.discard sound who
  | pick => exact h.pick
  | compile k => exact h.compile sound k
  | remove k => exact h.remove sound k

theorem covered_replay (service : Service σ) (workers : Nat) (limits : Limits) (state : σ)
    (actions : List (Action σ)) (client : String) :
    ((fresh workers limits state).replay service actions).Covered client :=
  (sound_fresh workers limits state).replay_preserves (P := fun s => s.Covered client)
    (fun _ a sound h => h.after sound a) (Nat.le_refl _) actions

end Steps

/-! ## Removals and discards -/

/-- The client has a list in use or one that is being compiled. -/
def hasList (s : Threads σ) (client : String) : Bool :=
  (s.slotOf client).artifact.isSome || (s.slotOf client).state = .compiling

/-- The number of removals for a client that are to be issued. -/
def due (s : Threads σ) (client : String) : Nat :=
  s.removers.countP fun r => r.client = client && r.isDue

/-- The number of removals for a client that were issued or are to be. -/
def removalsAsked (s : Threads σ) (client : String) : Nat :=
  (callLog client s.trace).countP Notice.isRemoval + s.due client

/-- The action is a discard of the client. -/
def Action.discards (client : String) : Action σ → Bool
  | .discard who => who = client
  | _ => false

/-- The number of discards of a client among actions that find a list in use or being compiled. -/
def discardsOfLists (service : Service σ) (client : String) (s : Threads σ) :
    List (Action σ) → Nat
  | [] => 0
  | a :: actions =>
    (a.discards client && s.hasList client).toNat +
      discardsOfLists service client (s.after service a) actions

section Removals

variable (s : Threads σ) (service : Service σ) (client : String)

theorem removalsAsked_compile (k : Nat) :
    (s.compile service k).removalsAsked client = s.removalsAsked client := by
  rcases s.compile_cases service k with same | ⟨t, m, -, moves, eq⟩
  · rw [same]
  · rw [eq, removalsAsked, due, moved_trace, moved_removers, callLog_append, List.countP_append,
      moves.removals, Nat.zero_add]
    rfl

theorem removalsAsked_remove (k : Nat) :
    (s.remove service k).removalsAsked client = s.removalsAsked client := by
  rcases s.remove_cases service k with same | ⟨r, m, found, moves, eq⟩
  · rw [same]
  have set := countP_set_add (fun u : Remover => u.client = client && u.isDue) found
    { r with stage := m.stage }
  rw [eq, removalsAsked, removalsAsked, due, due, moved_trace, moved_removers, callLog_append,
    List.countP_append]
  simp only [removerAtStage] at set ⊢
  by_cases here : r.client = client
  · have told := moves.removals
    simp only [here, decide_true, Bool.true_and, Remover.isDue] at set told ⊢
    omega
  · simp only [here, decide_false, Bool.false_and, Bool.toNat_false] at set
    rw [moves.callLog_of_ne here, List.countP_nil]
    omega

/-- A discard asks for a removal if it finds a list in use or being compiled. -/
theorem removalsAsked_discard (who : String) :
    (s.discard who).removalsAsked client =
      s.removalsAsked client + (who = client && s.hasList client).toNat := by
  unfold discard
  split
  · rename_i absent
    have none : s.hasList who = false := by simp [hasList, slotOf, absent, Slot.empty]
    by_cases here : who = client
    · simp [here ▸ none]
    · simp [here]
  · rename_i i there
    have found : s.hasList who = (s.slotAt i).cell.removal.maybeStored := by
      rw [hasList, slotOf, there]
      rfl
    unfold removalsAsked due
    rw [Nat.add_assoc]
    congr 1
    by_cases here : who = client
    · subst here
      rw [List.countP_append, List.countP_singleton, found]
      cases stored : (s.slotAt i).cell.removal.maybeStored <;> simp [Remover.isDue, stored]
    · simp [List.countP_append, here]

theorem removalsAsked_after (a : Action σ) :
    (s.after service a).removalsAsked client =
      s.removalsAsked client + (a.discards client && s.hasList client).toNat := by
  cases a with
  | change | alter | shutdown => rfl
  | submit who => simp [after, removalsAsked, due, Action.discards]
  | discard who => exact removalsAsked_discard s client who
  | pick => simp [after, removalsAsked, due, Action.discards]
  | compile k => exact removalsAsked_compile s service client k
  | remove k => exact removalsAsked_remove s service client k

theorem removalsAsked_replay (actions : List (Action σ)) :
    (s.replay service actions).removalsAsked client =
      s.removalsAsked client + discardsOfLists service client s actions := by
  induction actions generalizing s with
  | nil => rfl
  | cons a actions ih =>
    rw [discardsOfLists, ← Nat.add_assoc, ← removalsAsked_after]
    exact ih (s.after service a)

end Removals

/-! ## Compilations at the service -/

/-- The number of compilations of an identifier that are at the service. -/
def inProgress (s : Threads σ) (identifier : String) : Nat :=
  s.compilers.countP fun t => listIdentifier t.client = identifier && t.stage.isCalling

section Progress

variable {s : Threads σ} {service : Service σ} {client : String}

theorem inProgress_pos :
    0 < s.inProgress (listIdentifier client) ↔
      ∃ t ∈ s.compilers, t.client = client ∧ t.stage.isCalling = true := by
  simp [inProgress, List.countP_pos_iff, listIdentifier_inj]

/-- The calls in progress are ahead of their ends. -/
theorem inProgress_le_ahead (s : Threads σ) (client : String) :
    s.inProgress (listIdentifier client) ≤ s.ahead client := by
  have calls : s.inProgress (listIdentifier client) ≤
      s.compilers.countP fun t => t.client = client && t.stage.isAhead := by
    refine List.countP_mono_left fun t _ busy => ?_
    simp only [Bool.and_eq_true, decide_eq_true_eq, listIdentifier_inj] at busy ⊢
    exact ⟨busy.1, Stage.isAhead_of_isCalling busy.2⟩
  unfold ahead
  omega

theorem Sound.inProgress_le_one (h : s.Sound) (identifier : String) :
    s.inProgress identifier ≤ 1 := by
  by_cases idle : ∀ t ∈ s.compilers,
      ¬ (listIdentifier t.client = identifier && t.stage.isCalling) = true
  · unfold inProgress
    rw [List.countP_eq_zero.2 idle]
    exact Nat.zero_le _
  · push Not at idle
    obtain ⟨t, mem, busy⟩ := idle
    obtain ⟨named, calling⟩ := Bool.and_eq_true_iff.1 busy
    obtain rfl := of_decide_eq_true named
    have home := h.home mem (Stage.carries_of_isCalling calling)
    have seen : s.inProgress (listIdentifier t.client) ≤
        s.compilers.countP fun u => u.slot = t.slot && u.stage.carries := by
      refine List.countP_mono_left fun u among busy => ?_
      simp only [Bool.and_eq_true, decide_eq_true_eq, listIdentifier_inj] at busy ⊢
      have carries := Stage.carries_of_isCalling busy.2
      have theirs := h.home among carries
      rw [busy.1, home] at theirs
      exact ⟨(Option.some.inj theirs).symm, carries⟩
    have carried := h.carried t.slot
    have one := Bool.toNat_le (s.slotAt t.slot).running
    unfold carriers at carried
    omega

/-- While a discard holds the lock of the slot of its client nothing of the client is at the
service. -/
theorem Sound.apart_of_locks (h : s.Sound) {r : Remover} {t : Thread} (removes : r ∈ s.removers)
    (holds : r.stage.locks = true) (compiles : t ∈ s.compilers)
    (calling : t.stage.isCalling = true) : t.slot ≠ r.slot := by
  intro same
  have held := h.held r.slot
  have one := Bool.toNat_le (s.slotAt r.slot).locked
  have remover : 0 < s.removers.countP fun u => u.slot = r.slot && u.stage.locks :=
    List.countP_pos_iff.2 ⟨r, removes, by simp [holds]⟩
  have thread : 0 < s.compilers.countP fun u => u.slot = r.slot && u.stage.locks :=
    List.countP_pos_iff.2 ⟨t, compiles, by simp [same, Stage.locks_of_isCalling calling]⟩
  unfold holders at held
  omega

end Progress

end Threads

end ContentBlocker
