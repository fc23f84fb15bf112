import ContentBlocker.Proofs.Threads.Steps

/-!
# Slots and their locks

In every run one thread at most sees to the compilations of a slot, and one at most holds its lock.
While a thread sees to a slot, the slot is the one of its client.  `Sound` collects this, and
`sound_replay` says that it holds whatever the order of the steps.
-/

namespace ContentBlocker

variable {σ : Type}

/-! ## Moves -/

section Moves

variable {service : Service σ} {client : String} {accepting : Bool} {rules : List Rule}
  {x : SharedSlot} {state : σ}

namespace Compiles

variable {stage : Stage} {m : Move Stage σ}

/-- One thread sees to a slot until it has no more compilations, or gives the next to the pool. -/
theorem carries (moves : Compiles service client accepting rules x state stage m)
    (running : stage.carries = true → x.running = true) :
    m.handed.isSome.toNat + m.stage.carries.toNat + x.running.toNat =
      stage.carries.toNat + m.shared.running.toNat := by
  cases moves with
  | finish => simp [Stage.carries, running rfl]
  | skip => rw [SharedSlot.skip_eq]; rfl
  | _ => simp [Stage.carries, SharedSlot.record]

theorem locks (moves : Compiles service client accepting rules x state stage m)
    (locked : stage.locks = true → x.locked = true) :
    m.stage.locks.toNat + x.locked.toNat = stage.locks.toNat + m.shared.locked.toNat := by
  cases moves with
  | lock free => simp [Stage.locks, free]
  | unlock => simp [Stage.locks, locked rfl]
  | skip => rw [SharedSlot.skip_eq]; rfl
  | _ => simp [Stage.locks, SharedSlot.record]

theorem carries_of (moves : Compiles service client accepting rules x state stage m)
    (after : m.stage.carries = true ∨ m.handed.isSome = true) : stage.carries = true := by
  cases moves with
  | tell => rcases after with after | after <;> cases after
  | _ => rfl

theorem queued (moves : Compiles service client accepting rules x state stage m)
    (running : x.queued ≠ none → x.running = true) (some : m.shared.queued ≠ none) :
    m.shared.running = true := by
  cases moves with
  | take => exact absurd rfl some
  | finish queued => exact absurd queued some
  | skip =>
    rw [SharedSlot.skip_eq] at some ⊢
    exact running some
  | _ => exact running some

end Compiles

namespace Removes

variable {r : Removal} {stage : RemoverStage} {m : Move RemoverStage σ}

theorem locks (moves : Removes service client r x state stage m)
    (locked : stage.locks = true → x.locked = true) :
    m.stage.locks.toNat + x.locked.toNat = stage.locks.toNat + m.shared.locked.toNat := by
  cases moves with
  | lock free => simp [RemoverStage.locks, free]
  | unlock => simp [RemoverStage.locks, locked rfl]
  | _ => simp [RemoverStage.locks]

/-- A discard changes nothing of its slot but the lock, and gives no ticket to the pool. -/
theorem shared (moves : Removes service client r x state stage m) :
    m.shared = { x with locked := m.shared.locked } ∧ m.handed = none := by
  cases moves <;> exact ⟨rfl, rfl⟩

end Removes

end Moves

namespace Threads

/-! ## Slots that are sound -/

/-- A thread of the client may refer to the slot. -/
def Refers (s : Threads σ) (client : String) (i : Nat) : Prop :=
  i < s.slots.length ∧ ∀ other, s.table.get? other = some i → other = client

/-- The number of compilations of a slot that wait for a worker or are seen to by a thread. -/
def carriers (s : Threads σ) (i : Nat) : Nat :=
  s.line.countP (·.slot = i) + s.compilers.countP fun t => t.slot = i && t.stage.carries

/-- The number of threads that hold the lock of a slot. -/
def holders (s : Threads σ) (i : Nat) : Nat :=
  (s.compilers.countP fun t => t.slot = i && t.stage.locks) +
    s.removers.countP fun r => r.slot = i && r.stage.locks

/-- Threads refer to slots of their clients, and see only to those that the clients have. -/
structure Placed (s : Threads σ) : Prop where
  table : ∀ {client : String} {i : Nat}, s.table.get? client = some i → i < s.slots.length
  apart : ∀ {client other : String} {i : Nat}, s.table.get? client = some i →
    s.table.get? other = some i → other = client
  compiler : ∀ {t : Thread}, t ∈ s.compilers → s.Refers t.client t.slot
  remover : ∀ {r : Remover}, r ∈ s.removers → s.Refers r.client r.slot
  line : ∀ {job : Job}, job ∈ s.line → s.table.get? job.client = some job.slot
  home : ∀ {t : Thread}, t ∈ s.compilers → t.stage.carries = true →
    s.table.get? t.client = some t.slot

/-- The flags of a slot say what its threads do. -/
structure Sound (s : Threads σ) : Prop extends s.Placed where
  carried : ∀ i, s.carriers i = (s.slotAt i).running.toNat
  held : ∀ i, s.holders i = (s.slotAt i).locked.toNat
  queued : ∀ i, (s.slotAt i).queued ≠ none → (s.slotAt i).running = true

theorem slotAt_of_le (s : Threads σ) {i : Nat} (none : s.slots.length ≤ i) :
    s.slotAt i = .empty := by
  rw [slotAt, List.getElem?_eq_none none]
  rfl

namespace Sound

variable {s : Threads σ} (h : s.Sound)

include h

theorem running {t : Thread} (mem : t ∈ s.compilers) (carries : t.stage.carries = true) :
    (s.slotAt t.slot).running = true := by
  have counted : 0 < s.compilers.countP fun u => u.slot = t.slot && u.stage.carries :=
    List.countP_pos_iff.2 ⟨t, mem, by simp [carries]⟩
  have carried := h.carried t.slot
  unfold carriers at carried
  cases running : (s.slotAt t.slot).running with
  | true => rfl
  | false =>
    rw [running, Bool.toNat_false] at carried
    omega

theorem locked {t : Thread} (mem : t ∈ s.compilers) (locks : t.stage.locks = true) :
    (s.slotAt t.slot).locked = true := by
  have counted : 0 < s.compilers.countP fun u => u.slot = t.slot && u.stage.locks :=
    List.countP_pos_iff.2 ⟨t, mem, by simp [locks]⟩
  have held := h.held t.slot
  unfold holders at held
  cases locked : (s.slotAt t.slot).locked with
  | true => rfl
  | false =>
    rw [locked, Bool.toNat_false] at held
    omega

theorem locked_of_remover {r : Remover} (mem : r ∈ s.removers) (locks : r.stage.locks = true) :
    (s.slotAt r.slot).locked = true := by
  have counted : 0 < s.removers.countP fun u => u.slot = r.slot && u.stage.locks :=
    List.countP_pos_iff.2 ⟨r, mem, by simp [locks]⟩
  have held := h.held r.slot
  unfold holders at held
  cases locked : (s.slotAt r.slot).locked with
  | true => rfl
  | false =>
    rw [locked, Bool.toNat_false] at held
    omega

end Sound

/-! ## Steps -/

section Steps

variable {s : Threads σ} {service : Service σ} {client : String} {i : Nat}

theorem sound_fresh (workers : Nat) (limits : Limits) (state : σ) :
    (fresh workers limits state).Sound where
  table none := by cases none
  apart none := by cases none
  compiler mem := by cases mem
  remover mem := by cases mem
  line mem := by cases mem
  home mem := by cases mem
  carried _ := rfl
  held _ := rfl
  queued _ some := absurd rfl some

/-- What a move must keep, where the thread has gone on to its next stage already. -/
theorem sound_moved {α : Type} {m : Move α σ} (placed : s.Placed) (here : i < s.slots.length)
    (handed : m.handed.isSome = true → s.table.get? client = some i)
    (carried : ∀ j, s.carriers j + (if i = j then m.handed.isSome.toNat else 0) =
      (if i = j then m.shared else s.slotAt j).running.toNat)
    (held : ∀ j, s.holders j = (if i = j then m.shared else s.slotAt j).locked.toNat)
    (queued : ∀ j, (if i = j then m.shared else s.slotAt j).queued ≠ none →
      (if i = j then m.shared else s.slotAt j).running = true) :
    (s.moved client i m).Sound := by
  have kept {other : String} {j : Nat}
      (there : (s.moved client i m).table.get? other = some j) : s.table.get? other = some j := by
    rw [get?_moved s client m here] at there
    split at there
    · cases there
    · exact there
  have refers {who : String} {j : Nat} (refers : s.Refers who j) :
      (s.moved client i m).Refers who j := by
    refine ⟨?_, fun other there => refers.2 other (kept there)⟩
    rw [moved_slots, List.length_set]
    exact refers.1
  -- a slot that somebody sees to is not dropped
  have stays {other : String} {j : Nat} (there : s.table.get? other = some j)
      (running : (if i = j then m.shared else s.slotAt j).running = true) :
      (s.moved client i m).table.get? other = some j := by
    rw [get?_moved s client m here, if_neg, there]
    rintro ⟨-, idle, mine, rfl⟩
    obtain rfl : i = j := Option.some.inj (mine.symm.trans there)
    rw [if_pos rfl] at running
    rw [SharedSlot.isIdle_of_running _ running] at idle
    cases idle
  have counted (j : Nat) (some : 0 < s.carriers j + if i = j then m.handed.isSome.toNat else 0) :
      (if i = j then m.shared else s.slotAt j).running = true := by
    rw [carried j] at some
    cases running : (if i = j then m.shared else s.slotAt j).running with
    | true => rfl
    | false => simp [running] at some
  refine ⟨⟨?_, ?_, ?_, ?_, ?_, ?_⟩, ?_, ?_, ?_⟩
  · intro other j there
    rw [moved_slots, List.length_set]
    exact placed.table (kept there)
  · intro other another j there too
    exact placed.apart (kept there) (kept too)
  · intro t mem
    rw [moved_compilers] at mem
    exact refers (placed.compiler mem)
  · intro r mem
    rw [moved_removers] at mem
    exact refers (placed.remover mem)
  · intro job mem
    rw [moved_line, List.mem_append] at mem
    rcases mem with mem | mem
    · refine stays (placed.line mem) (counted job.slot ?_)
      have one : 0 < s.line.countP (·.slot = job.slot) :=
        List.countP_pos_iff.2 ⟨job, mem, by simp⟩
      unfold carriers
      omega
    · obtain ⟨ticket, given, rfl⟩ := Option.map_eq_some_iff.1 (Option.mem_toList.1 mem)
      have some : m.handed.isSome = true := by simp [given]
      exact stays (handed some) (counted i (by simp [some]))
  · intro t mem carries
    rw [moved_compilers] at mem
    refine stays (placed.home mem carries) (counted t.slot ?_)
    have one : 0 < s.compilers.countP fun u => u.slot = t.slot && u.stage.carries :=
      List.countP_pos_iff.2 ⟨t, mem, by simp [carries]⟩
    unfold carriers
    omega
  · intro j
    rw [slotAt_moved s client m here, ← carried j, carriers, carriers, moved_line, moved_compilers,
      List.countP_append]
    cases m.handed with
    | none => simp
    | some ticket => by_cases same : i = j <;> simp [same]; omega
  · intro j
    rw [slotAt_moved s client m here, ← held j, holders, holders, moved_compilers, moved_removers]
  · intro j
    rw [slotAt_moved s client m here]
    exact queued j

theorem Sound.compile (h : s.Sound) (k : Nat) : (s.compile service k).Sound := by
  rcases s.compile_cases service k with same | ⟨t, m, found, moves, eq⟩
  · rwa [same]
  have mem := List.mem_of_getElem? found
  have refers := h.compiler mem
  have home (carries : t.stage.carries = true) := h.home mem carries
  rw [eq]
  refine sound_moved ⟨h.table, h.apart, ?_, h.remover, h.line, ?_⟩ refers.1 ?_ ?_ ?_ ?_
  · intro u among
    rcases s.mem_atStage k t m.stage among with before | rfl
    · exact h.compiler before
    · exact refers
  · intro u among carries
    rcases s.mem_atStage k t m.stage among with before | rfl
    · exact h.home before carries
    · exact home (moves.carries_of (.inl carries))
  · exact fun given => home (moves.carries_of (.inr given))
  · intro j
    have moved := moves.carries (h.running mem)
    have carried := h.carried j
    have set := countP_set_add (fun u => u.slot = j && u.stage.carries) found
      { t with stage := m.stage }
    unfold carriers at carried ⊢
    by_cases same : t.slot = j
    · subst same
      simp only [decide_true, Bool.true_and, if_true, atStage] at set carried ⊢
      omega
    · simp only [same, decide_false, Bool.false_and, if_false, Bool.toNat_false, atStage] at set ⊢
      exact carried ▸ by omega
  · intro j
    have moved := moves.locks (h.locked mem)
    have held := h.held j
    have set := countP_set_add (fun u => u.slot = j && u.stage.locks) found
      { t with stage := m.stage }
    unfold holders at held ⊢
    by_cases same : t.slot = j
    · subst same
      simp only [decide_true, Bool.true_and, if_true, atStage] at set held ⊢
      omega
    · simp only [same, decide_false, Bool.false_and, if_false, Bool.toNat_false, atStage] at set ⊢
      exact held ▸ by omega
  · intro j some
    by_cases same : t.slot = j
    · rw [if_pos same] at some ⊢
      exact moves.queued (h.queued t.slot) some
    · rw [if_neg same] at some ⊢
      exact h.queued j some

theorem Sound.remove (h : s.Sound) (k : Nat) : (s.remove service k).Sound := by
  rcases s.remove_cases service k with same | ⟨r, m, found, moves, eq⟩
  · rwa [same]
  have mem := List.mem_of_getElem? found
  have refers := h.remover mem
  obtain ⟨shared, handed⟩ := moves.shared
  rw [eq]
  refine sound_moved ⟨h.table, h.apart, h.compiler, ?_, h.line, h.home⟩ refers.1 ?_ ?_ ?_ ?_
  · intro u among
    rcases s.mem_removerAtStage k r m.stage among with before | rfl
    · exact h.remover before
    · exact refers
  · intro given
    rw [handed] at given
    cases given
  · intro j
    have carried := h.carried j
    unfold carriers at carried ⊢
    rw [handed, shared, slotAt_removerAtStage]
    by_cases same : r.slot = j
    · subst same
      simpa [removerAtStage] using carried
    · simpa [removerAtStage, same] using carried
  · intro j
    have moved := moves.locks (h.locked_of_remover mem)
    have held := h.held j
    have set := countP_set_add (fun u => u.slot = j && u.stage.locks) found
      { r with stage := m.stage }
    unfold holders at held ⊢
    by_cases same : r.slot = j
    · subst same
      simp only [decide_true, Bool.true_and, if_true, removerAtStage] at set held ⊢
      omega
    · simp only [same, decide_false, Bool.false_and, if_false, Bool.toNat_false,
        removerAtStage] at set ⊢
      exact held ▸ by omega
  · intro j some
    by_cases same : r.slot = j
    · rw [if_pos same] at some ⊢
      rw [shared] at some ⊢
      exact h.queued r.slot some
    · rw [if_neg same] at some ⊢
      exact h.queued j some

theorem Sound.pick (h : s.Sound) : s.pick.Sound := by
  unfold Threads.pick
  split
  · exact h
  · rename_i job rest line
    split
    · have mem : job ∈ s.line := by simp [line]
      have home := h.line mem
      have among {t : Thread} (there : t ∈ s.compilers ++
          [⟨job.client, job.slot, true, .entering job.ticket⟩]) :
          t ∈ s.compilers ∨ t.client = job.client ∧ t.slot = job.slot := by
        rcases List.mem_append.1 there with before | new
        · exact .inl before
        · rw [List.mem_singleton.1 new]
          exact .inr ⟨rfl, rfl⟩
      refine ⟨⟨h.table, h.apart, ?_, h.remover, ?_, ?_⟩, ?_, ?_, h.queued⟩
      · intro t there
        rcases among there with before | ⟨client, slot⟩
        · exact h.compiler before
        · rw [client, slot]
          exact ⟨h.table home, fun other there => h.apart home there⟩
      · intro other there
        exact h.line (by rw [line]; exact List.mem_cons_of_mem _ there)
      · intro t there carries
        rcases among there with before | ⟨client, slot⟩
        · exact h.home before carries
        · rw [client, slot]
          exact home
      · intro j
        have carried := h.carried j
        unfold carriers at carried ⊢
        rw [line, List.countP_cons] at carried
        have carries : (Stage.entering job.ticket).carries = true := rfl
        simp only [spawn, List.countP_append, List.countP_singleton, carries, Bool.and_true]
        exact carried ▸ by omega
      · intro j
        have held := h.held j
        unfold holders at held ⊢
        simpa [spawn, List.countP_append, Stage.locks, slotAt] using held
    · exact h

/-- Nobody refers to a new slot. -/
theorem Sound.addSlot (h : s.Sound) (absent : s.table.get? client = none) :
    (s.addSlot client).Sound := by
  have length : (s.addSlot client).slots.length = s.slots.length + 1 := by simp [Threads.addSlot]
  have keeps {other : String} {j : Nat} (there : s.table.get? other = some j) :
      (s.addSlot client).table.get? other = some j := by
    rw [get?_addSlot, if_neg, there]
    rintro rfl
    rw [absent] at there
    cases there
  have kept {other : String} {j : Nat} (there : (s.addSlot client).table.get? other = some j) :
      client = other ∧ s.slots.length = j ∨ s.table.get? other = some j := by
    rw [get?_addSlot] at there
    split at there
    · rename_i same
      exact .inl ⟨same, Option.some.inj there⟩
    · exact .inr there
  have refers {who : String} {j : Nat} (refers : s.Refers who j) :
      (s.addSlot client).Refers who j := by
    refine ⟨length ▸ Nat.lt_succ_of_lt refers.1, fun other there => ?_⟩
    rcases kept there with ⟨-, rfl⟩ | there
    · exact absurd refers.1 (Nat.lt_irrefl _)
    · exact refers.2 other there
  refine ⟨⟨?_, ?_, fun mem => refers (h.compiler mem), fun mem => refers (h.remover mem),
    fun mem => keeps (h.line mem), fun mem carries => keeps (h.home mem carries)⟩, ?_, ?_, ?_⟩
  · intro other j there
    rw [length]
    rcases kept there with ⟨-, rfl⟩ | there
    · exact Nat.lt_succ_self _
    · exact Nat.lt_succ_of_lt (h.table there)
  · intro other another j there too
    rcases kept there with ⟨rfl, rfl⟩ | there <;> rcases kept too with ⟨rfl, same⟩ | too
    · rfl
    · exact absurd (h.table too) (Nat.lt_irrefl _)
    · exact absurd (h.table there) (same ▸ Nat.lt_irrefl _)
    · exact h.apart there too
  · exact fun j => slotAt_addSlot s client j ▸ h.carried j
  · exact fun j => slotAt_addSlot s client j ▸ h.held j
  · exact fun j => slotAt_addSlot s client j ▸ h.queued j

theorem Sound.opened (h : s.Sound) (client : String) :
    (s.opened client).2.Sound ∧
      (s.opened client).2.table.get? client = some (s.opened client).1 := by
  unfold Threads.opened
  split
  · rename_i i there
    exact ⟨h, there⟩
  · rename_i absent
    refine ⟨h.addSlot absent, ?_⟩
    rw [get?_addSlot, if_pos rfl]

/-- A slot in which neither the lock changes nor who sees to it. -/
theorem Sound.put (h : s.Sound) (here : i < s.slots.length) {x : SharedSlot}
    (running : x.running = (s.slotAt i).running) (locked : x.locked = (s.slotAt i).locked)
    (queued : x.queued ≠ none → x.running = true) : (s.put i x).Sound := by
  have length : (s.put i x).slots.length = s.slots.length := by simp [Threads.put]
  have refers {who : String} {j : Nat} (refers : s.Refers who j) : (s.put i x).Refers who j :=
    ⟨length ▸ refers.1, refers.2⟩
  have slot (j : Nat) : (s.put i x).slotAt j = if i = j then x else s.slotAt j :=
    slotAt_put s i here j
  refine ⟨⟨fun there => length ▸ h.table there, h.apart, fun mem => refers (h.compiler mem),
    fun mem => refers (h.remover mem), h.line, h.home⟩, ?_, ?_, ?_⟩ <;> intro j <;> rw [slot j]
  · split
    · rename_i same
      rw [running]
      exact same ▸ h.carried i
    · exact h.carried j
  · split
    · rename_i same
      rw [locked]
      exact same ▸ h.held i
    · exact h.held j
  · split
    · exact queued
    · exact h.queued j

theorem Sound.asked (h : s.Sound) (asked : List String) : Sound { s with asked } :=
  ⟨⟨h.table, h.apart, h.compiler, h.remover, h.line, h.home⟩, h.carried, h.held, h.queued⟩

/-- A slot that a request begins to see to. -/
theorem Sound.start (h : s.Sound) (there : s.table.get? client = some i)
    (idle : (s.slotAt i).running = false) {x : SharedSlot} (running : x.running = true)
    (locked : x.locked = (s.slotAt i).locked) (ticket : Nat) :
    ((s.put i x).spawn ⟨client, i, false, .starting ticket []⟩).Sound := by
  have here := h.table there
  have length : (s.put i x).slots.length = s.slots.length := by simp [Threads.put]
  have refers {who : String} {j : Nat} (refers : s.Refers who j) :
      ((s.put i x).spawn ⟨client, i, false, .starting ticket []⟩).Refers who j :=
    ⟨length ▸ refers.1, refers.2⟩
  have slot (j : Nat) : ((s.put i x).spawn ⟨client, i, false, .starting ticket []⟩).slotAt j =
      if i = j then x else s.slotAt j :=
    slotAt_put s i here j
  have carries : (Stage.starting ticket []).carries = true := rfl
  have locks : (Stage.starting ticket []).locks = false := rfl
  refine ⟨⟨fun there => length ▸ h.table there, h.apart, fun mem => ?_,
    fun mem => refers (h.remover mem), h.line, fun mem carries => ?_⟩, ?_, ?_, ?_⟩
  · rcases List.mem_append.1 mem with before | new
    · exact refers (h.compiler before)
    · rw [List.mem_singleton.1 new]
      exact ⟨length ▸ here, fun other too => h.apart there too⟩
  · rcases List.mem_append.1 mem with before | new
    · exact h.home before carries
    · rw [List.mem_singleton.1 new]
      exact there
  · intro j
    have carried := h.carried j
    rw [slot j]
    unfold carriers at carried ⊢
    simp only [Threads.put, spawn, List.countP_append, List.countP_singleton, carries,
      Bool.and_true]
    by_cases same : i = j
    · subst same
      rw [idle, Bool.toNat_false] at carried
      simp [running]
      omega
    · simp only [same, decide_false, Bool.false_eq_true, if_false]
      omega
  · intro j
    have held := h.held j
    rw [slot j]
    unfold holders at held ⊢
    simp only [Threads.put, spawn, List.countP_append, List.countP_singleton, locks, Bool.and_false,
      Bool.false_eq_true, if_false]
    split
    · rename_i same
      rw [locked]
      exact same ▸ held
    · exact held
  · intro j
    rw [slot j]
    split
    · exact fun _ => running
    · exact h.queued j

theorem Sound.ask (h : s.Sound) (there : s.table.get? client = some i) :
    (s.ask client i).2.Sound := by
  have here := h.table there
  have asked := h.asked (s.asked ++ [client])
  rcases s.ask_cases client i with ⟨ticket, queued, eq⟩ | ⟨queued, running, eq⟩ |
    ⟨queued, idle, eq⟩ <;> rw [eq]
  · exact h.put here rfl rfl (h.queued i)
  · exact asked.put here rfl rfl fun _ => running
  · exact asked.start (x := { s.wanted i with running := true }) there idle rfl rfl _

theorem Sound.discard (h : s.Sound) (client : String) : (s.discard client).Sound := by
  unfold Threads.discard
  split
  · exact h
  · rename_i i there
    have here := h.table there
    have put : (s.put i (s.slotAt i).discarded).Sound := h.put here rfl rfl (h.queued i)
    refine ⟨⟨put.table, put.apart, put.compiler, fun mem => ?_, put.line, put.home⟩, put.carried,
      fun j => ?_, put.queued⟩
    · rcases List.mem_append.1 mem with before | new
      · exact put.remover before
      · rw [List.mem_singleton.1 new]
        exact ⟨put.table there, fun other too => put.apart there too⟩
    · have held := put.held j
      have locks : RemoverStage.waiting.locks = false := rfl
      unfold holders at held ⊢
      simp only [List.countP_append, List.countP_singleton, locks, Bool.and_false,
        Bool.false_eq_true, if_false]
      exact held

theorem Sound.after (h : s.Sound) (a : Action σ) : (s.after service a).Sound := by
  cases a with
  | change | alter | shutdown =>
    exact ⟨⟨h.table, h.apart, h.compiler, h.remover, h.line, h.home⟩, h.carried, h.held, h.queued⟩
  | submit client =>
    obtain ⟨sound, there⟩ := h.opened client
    exact sound.ask there
  | discard client => exact h.discard client
  | pick => exact h.pick
  | compile k => exact h.compile k
  | remove k => exact h.remove k

theorem Sound.replay (h : s.Sound) (actions : List (Action σ)) :
    (s.replay service actions).Sound :=
  Threads.replay_preserves (fun _ a h => h.after a) h actions

theorem sound_replay (service : Service σ) (workers : Nat) (limits : Limits) (state : σ)
    (actions : List (Action σ)) : ((fresh workers limits state).replay service actions).Sound :=
  (sound_fresh workers limits state).replay actions

/-- What every action keeps while the slots are sound is kept by every run. -/
theorem Sound.replay_preserves (h : s.Sound) {P : Threads σ → Prop}
    (step : ∀ s a, Sound s → P s → P (s.after service a)) (start : P s)
    (actions : List (Action σ)) : P (s.replay service actions) := by
  have both : (s.replay service actions).Sound ∧ P (s.replay service actions) :=
    Threads.replay_preserves (P := fun s => s.Sound ∧ P s)
      (fun s a h => ⟨h.1.after a, step s a h.1 h.2⟩) ⟨h, start⟩ actions
  exact both.2

end Steps

end Threads

end ContentBlocker
