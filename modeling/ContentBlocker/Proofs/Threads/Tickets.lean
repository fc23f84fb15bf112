import ContentBlocker.Proofs.Compile.Tickets
import ContentBlocker.Proofs.Threads.Locks

/-!
# Tickets of threads

Every ticket is in one place: a slot in which it is queued, the line, a thread, or the trace, once
it is answered.  So no ticket has two answers, and `outcome?_eq_some` finds the one that was told.
-/

namespace ContentBlocker

variable {σ : Type}

/-! ## Moves -/

section Moves

variable {service : Service σ} {client : String} {accepting : Bool} {rules : List Rule}
  {x : SharedSlot} {state : σ}

/-- A thread takes a ticket from the slot, keeps it, or gives it to the line or to the trace. -/
theorem Compiles.tickets {stage : Stage} {m : Move Stage σ}
    (moves : Compiles service client accepting rules x state stage m) (n : Nat) :
    (answered m.told.toList).count n + m.handed.toList.count n + m.stage.tickets.count n +
        m.shared.queued.toList.count n =
      stage.tickets.count n + x.queued.toList.count n := by
  cases moves with
  | skip => rw [SharedSlot.skip_eq]; simp [answered, Stage.tickets]
  | take queued => simp [answered, Stage.tickets, queued, List.count_cons]
  | tell => simp [answered, Stage.tickets, List.count_cons]; omega
  | hand => simp [answered, Stage.tickets, List.count_cons]; omega
  | _ => simp [answered, Stage.tickets, SharedSlot.record]

theorem Removes.answered {r : Removal} {stage : RemoverStage} {m : Move RemoverStage σ}
    (moves : Removes service client r x state stage m) : answered m.told.toList = [] := by
  cases moves <;> rfl

end Moves

namespace Threads

/-- The tickets that were given, in the places where they are. -/
def tickets (s : Threads σ) : List Nat :=
  answered s.trace ++ s.slots.flatMap (·.queued.toList) ++ s.line.map (·.ticket) ++
    s.compilers.flatMap (·.stage.tickets)

/-- How often the ticket was given. -/
def given (s : Threads σ) (n : Nat) : Nat := if n < s.asked.length then 1 else 0

/-- Each ticket that was given is in one place. -/
def Kept (s : Threads σ) : Prop := ∀ n, s.tickets.count n = s.given n

variable {s : Threads σ} {service : Service σ}

theorem getElem?_slots {i : Nat} (here : i < s.slots.length) : s.slots[i]? = some (s.slotAt i) := by
  rw [slotAt, List.getElem?_eq_getElem here]
  rfl

theorem count_tickets (s : Threads σ) (n : Nat) :
    s.tickets.count n =
      (answered s.trace).count n + (s.slots.flatMap (·.queued.toList)).count n +
        (s.line.map (·.ticket)).count n + (s.compilers.flatMap (·.stage.tickets)).count n := by
  simp only [tickets, List.count_append]

/-- What a move adds to the places of tickets but the thread. -/
theorem count_tickets_moved {α : Type} (s : Threads σ) (client : String) {i : Nat}
    (here : i < s.slots.length) (m : Move α σ) (n : Nat) :
    (s.moved client i m).tickets.count n + (s.slotAt i).queued.toList.count n =
      s.tickets.count n + (answered m.told.toList).count n + m.handed.toList.count n +
        m.shared.queued.toList.count n := by
  have set := count_flatMap_set_add (fun x : SharedSlot => x.queued.toList) (getElem?_slots here)
    m.shared n
  have line : (m.handed.map (Job.mk · client i)).toList.map (·.ticket) = m.handed.toList := by
    cases m.handed <;> rfl
  rw [count_tickets, count_tickets, moved_trace, moved_slots, moved_line, moved_compilers,
    answered_append, List.count_append, List.map_append, List.count_append, line]
  omega

theorem count_tickets_atStage {k : Nat} {t : Thread} (found : s.compilers[k]? = some t)
    (stage : Stage) (n : Nat) :
    (s.atStage k t stage).tickets.count n + t.stage.tickets.count n =
      s.tickets.count n + stage.tickets.count n := by
  have set := count_flatMap_set_add (fun u : Thread => u.stage.tickets) found { t with stage } n
  rw [count_tickets, count_tickets]
  simp only [atStage] at set ⊢
  omega

theorem Kept.compile (placed : s.Placed) (h : s.Kept) (k : Nat) : (s.compile service k).Kept := by
  rcases s.compile_cases service k with same | ⟨t, m, found, moves, eq⟩
  · rwa [same]
  intro n
  have here := (placed.compiler (List.mem_of_getElem? found)).1
  have moved := count_tickets_moved (s.atStage k t m.stage) t.client here m n
  have staged := count_tickets_atStage found m.stage n
  have tickets := moves.tickets n
  have before := h n
  have given : ((s.atStage k t m.stage).moved t.client t.slot m).given n = s.given n := by
    rw [Threads.given, moved_asked]
    rfl
  rw [eq, given]
  rw [slotAt_atStage] at moved
  omega

theorem Kept.remove (placed : s.Placed) (h : s.Kept) (k : Nat) : (s.remove service k).Kept := by
  rcases s.remove_cases service k with same | ⟨r, m, found, moves, eq⟩
  · rwa [same]
  intro n
  have here := (placed.remover (List.mem_of_getElem? found)).1
  have moved := count_tickets_moved (s.removerAtStage k r m.stage) r.client here m n
  obtain ⟨shared, handed⟩ := moves.shared
  have before : (s.removerAtStage k r m.stage).tickets.count n = s.given n := h n
  have given : ((s.removerAtStage k r m.stage).moved r.client r.slot m).given n = s.given n := by
    rw [Threads.given, moved_asked]
    rfl
  rw [moves.answered, handed, shared, before] at moved
  rw [eq, given]
  simpa using moved

theorem Kept.pick (h : s.Kept) : s.pick.Kept := by
  unfold Threads.pick
  split
  · exact h
  · rename_i job rest line
    split
    · intro n
      have before := h n
      have ticket : (Stage.entering job.ticket).tickets = [job.ticket] := rfl
      rw [count_tickets, line, List.map_cons, List.count_cons] at before
      rw [count_tickets]
      simp only [spawn, List.flatMap_append, List.count_append, List.flatMap_cons,
        List.flatMap_nil, List.append_nil, ticket, List.count_singleton]
      change _ = s.given n
      omega
    · exact h

/-- A request that is not shared is given the next ticket. -/
theorem Kept.ask (h : s.Kept) {i : Nat} (here : i < s.slots.length) (client : String) :
    (s.ask client i).2.Kept := by
  have put (x : SharedSlot) (n : Nat) := count_flatMap_set_add
    (fun x : SharedSlot => x.queued.toList) (getElem?_slots here) x n
  have next (n : Nat) : s.given n + (if s.asked.length = n then 1 else 0) =
      if n < s.asked.length + 1 then 1 else 0 := by
    unfold given
    split <;> split <;> split <;> omega
  rcases s.ask_cases client i with ⟨ticket, queued, eq⟩ | ⟨queued, running, eq⟩ |
    ⟨queued, idle, eq⟩ <;> rw [eq] <;> intro n <;> have before := h n
  · rw [count_tickets] at before ⊢
    have put := put (s.wanted i) n
    simp only [wanted] at put
    simp only [Threads.put, wanted]
    change _ = s.given n
    omega
  · rw [count_tickets] at before ⊢
    have put := put { s.wanted i with queued := some s.asked.length } n
    have next := next n
    simp only [queued, Option.toList_none, Option.toList_some, List.count_nil, List.count_singleton,
      beq_iff_eq] at put
    simp only [Threads.put, given, List.length_append, List.length_singleton]
    omega
  · rw [count_tickets] at before ⊢
    have put := put { s.wanted i with running := true } n
    have next := next n
    have ticket : (Stage.starting s.asked.length []).tickets = [s.asked.length] := rfl
    simp only [wanted, queued, Option.toList_none, List.count_nil] at put
    simp only [Threads.put, spawn, given, List.length_append, List.length_singleton,
      List.flatMap_append, List.count_append, List.flatMap_cons, List.flatMap_nil, List.append_nil,
      ticket, List.count_singleton, beq_iff_eq, wanted, queued]
    omega

theorem Kept.addSlot (h : s.Kept) (client : String) : (s.addSlot client).Kept := by
  intro n
  have before := h n
  rw [count_tickets] at before ⊢
  have none : SharedSlot.empty.queued.toList = [] := rfl
  simp only [Threads.addSlot, List.flatMap_append, List.flatMap_cons, List.flatMap_nil, none,
    List.append_nil]
  exact before

theorem Kept.discard (placed : s.Placed) (h : s.Kept) (client : String) :
    (s.discard client).Kept := by
  unfold Threads.discard
  split
  · exact h
  · rename_i i there
    intro n
    have before := h n
    have put := count_flatMap_set_add (fun x : SharedSlot => x.queued.toList)
      (getElem?_slots (placed.table there)) (s.slotAt i).discarded n
    rw [count_tickets] at before ⊢
    simp only [SharedSlot.discarded] at put
    simp only [Threads.put, SharedSlot.discarded]
    change _ = s.given n
    omega

theorem Kept.after (sound : s.Sound) (h : s.Kept) (a : Action σ) : (s.after service a).Kept := by
  cases a with
  | change | alter | shutdown => exact h
  | submit client =>
    obtain ⟨fit, there⟩ := sound.opened client
    refine Kept.ask ?_ (fit.table there) client
    unfold opened
    split
    · exact h
    · exact h.addSlot client
  | discard client => exact h.discard sound.toPlaced client
  | pick => exact h.pick
  | compile k => exact h.compile sound.toPlaced k
  | remove k => exact h.remove sound.toPlaced k

theorem kept_replay (service : Service σ) (workers : Nat) (limits : Limits) (state : σ)
    (actions : List (Action σ)) : ((fresh workers limits state).replay service actions).Kept :=
  (sound_fresh workers limits state).replay_preserves (P := Kept)
    (fun _ a sound h => h.after sound a) (fun _ => rfl) actions

/-- A ticket has the one answer that is told of it. -/
theorem outcome?_eq_some (h : s.Kept) {ticket : Nat} {outcome : Outcome} :
    s.outcome? ticket = some outcome ↔ .complete ticket outcome ∈ s.trace := by
  have once : (answered s.trace).Nodup := by
    refine List.nodup_iff_count_le_one.2 fun n => ?_
    have count := h n
    rw [count_tickets] at count
    have one : s.given n ≤ 1 := by
      unfold given
      split <;> omega
    omega
  exact ⟨told_of_findSome?, findSome?_of_told once⟩

end Threads

end ContentBlocker
