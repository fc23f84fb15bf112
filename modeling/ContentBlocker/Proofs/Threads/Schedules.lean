import ContentBlocker.Proofs.Threads.Landings

/-!
# The scheduler as one order of the threads

Whatever the scheduler does, threads do when their turns come in the right order: those of one
client go on until they can do no more, and then those of the next.  `exists_schedule` says so of
every run, so that what holds of threads in any order holds of the scheduler.
-/

namespace ContentBlocker.Threads

variable {σ : Type} (service : Service σ) {u w : Threads σ} {s : Scheduler σ} {client : String}
  {i : Nat}

/-! ## Discards -/

/-- A discard that has not taken effect waits in the corner of its client. -/
theorem Shows.discard (h : u.Shows s none) {c : Cell} (there : s.cells.get? client = some c) :
    (c.flight? = none → c.removals = []) ∧ ∃ i, (u.discard client).Shows s (some client) ∧
      (u.discard client).table.get? client = some i ∧
      (u.discard client).corner i =
        { c.discarded with removals := c.removals ++ [c.removal] }.corner client i ∧
      (u.discard client).busy = u.busy := by
  obtain ⟨removals, i, home, corner⟩ := h.of_present (by simp) there
  have here := h.sound.table home
  have slot : u.slotAt i = c.shared := congrArg Corner.shared corner
  have removal : c.shared.cell.removal = c.removal := rfl
  have discarded : u.discard client =
      { u.put i c.shared.discarded with
        removers := u.removers ++ [⟨client, i, c.removal, .waiting⟩] } := by
    simp only [Threads.discard, home, slot, removal]
  have apart (j : Nat) (apart : j ≠ i) : (u.discard client).corner j = u.corner j := by
    rw [discarded]
    refine Corner.ext ?_ rfl rfl ?_
    · exact (slotAt_put u i here j).trans (if_neg (Ne.symm apart))
    · simp [Threads.corner, put, Ne.symm apart]
  refine ⟨removals, i, ?_, ?_, ?_, ?_⟩
  · exact h.aside.changed home (by rw [discarded]; rfl) (h.sound.discard client) apart
  · rwa [discarded]
  · have jobs := congrArg Corner.jobs corner
    have compilers := congrArg Corner.compilers corner
    have removers := congrArg Corner.removers corner
    rw [discarded]
    refine Corner.ext ((slotAt_put u i here i).trans (if_pos rfl)) jobs compilers ?_
    refine (List.filter_append ..).trans ((congrArg (· ++ _) removers).trans ?_)
    simp [Cell.corner]
  · rw [discarded]
    rfl

theorem Matches.discard (h : u.Matches s) (client : String) :
    ∃ actions, (u.replay service actions).Matches (s.discard service client).2 := by
  obtain ⟨h, busy⟩ := h
  cases there : s.cells.get? client with
  | none =>
    rw [Scheduler.discard_of_absent s service client there]
    exact ⟨[], h, busy⟩
  | some c =>
    have cell := Scheduler.cellOf_of_present there
    obtain ⟨removals, i, shows, home, corner, count⟩ := h.discard there
    cases flight : c.flight? with
    | some f =>
      let d : Cell := { c.discarded with removals := c.removals ++ [c.removal] }
      have later : (s.discard service client).2 = { s with cells := s.cells.set client d } := by
        simp [Scheduler.discard, there, flight, d]
      refine ⟨[.discard client], later ▸ shows.set (c := d) home corner ?_ ?_ ?_ (count.trans busy)⟩
      · simp [d, Cell.isIdle, Cell.discarded, c.running_of_flight flight]
      · exact fun none => absurd (flight.symm.trans none) (by simp)
      · rw [cell]
        rfl
    | none =>
      let w := u.discard client
      let p := removalPhase service w client i c.removal
      have none := removals flight
      have first : (w.corner i).removers = [⟨client, i, c.removal, .waiting⟩] := by
        simp [w, corner, Cell.corner, none]
      have slot : w.slotAt i = c.shared.discarded := congrArg Corner.shared corner
      have free : (w.slotAt i).locked = false := slot ▸ congrArg Option.isSome flight
      obtain ⟨actions, follows, corner₁, busy₁⟩ :=
        exists_remove service shows.sound home first free
      have now : (s.discard service client).2 =
          (s.issue service client c.removal).keep client c.discarded := by
        simp [Scheduler.discard, there, flight]
      have shows₁ := (shows.followed home (shows.sound.replay actions) follows).retold
        (Notice.issue client c.removal ++ s.trace) rfl
      have issued :
          { s.followed client p with trace := Notice.issue client c.removal ++ s.trace } =
            s.issue service client c.removal := by
        simp only [Scheduler.followed, p, removalPhase, Scheduler.issue, Notice.issue,
          show w.service = _ from shows.service]
        cases c.removal.maybeStored <;> simp [Scheduler.note]
      rw [issued] at shows₁
      refine ⟨.discard client :: actions, now ▸ shows₁.keep ?_, ?_⟩
      · refine follows.fits_kept home ?_ ?_ fun _ => none
        · rw [corner₁, corner]
          exact Corner.ext rfl rfl rfl (by simp [Cell.corner, Cell.discarded, none])
        · change (w.slotAt i).isIdle = _
          rw [slot]
          simp [SharedSlot.isIdle, SharedSlot.cell, SharedSlot.discarded, Cell.shared, Cell.isIdle,
            Cell.discarded]
      · have counted := Scheduler.busy_keep client c.discarded shows₁.keys
        rw [← issued] at counted
        have same : { s.followed client p with
            trace := Notice.issue client c.removal ++ s.trace }.cellOf client = c := cell
        rw [same] at counted
        rw [now, ← issued]
        exact (busy₁.trans (count.trans busy)).trans (Nat.add_right_cancel counted).symm

/-! ## Requests -/

/-- Nobody has anything to do in a slot that there is not. -/
theorem Sound.corner_of_le (h : u.Sound) (none : u.slots.length ≤ i) :
    u.corner i = Cell.empty.corner client i := by
  refine Corner.ext (slotAt_of_le u none) ?_ ?_ ?_
  · refine List.filter_eq_nil_iff.2 fun job mem => ?_
    have below := h.table (h.line mem)
    simp only [decide_eq_true_eq]
    omega
  · refine List.filter_eq_nil_iff.2 fun t mem => ?_
    have below := (h.compiler mem).1
    simp only [Bool.and_eq_true, decide_eq_true_eq]
    omega
  · refine List.filter_eq_nil_iff.2 fun r mem => ?_
    have below := (h.remover mem).1
    simp only [Bool.and_eq_true, decide_eq_true_eq]
    omega

/-- A client that has no slot is given an empty one. -/
theorem Shows.opened (h : u.Shows s none) (client : String) :
    ∃ i w, u.opened client = (i, w) ∧ w.Shows s (some client) ∧ w.table.get? client = some i ∧
      w.corner i = (s.cellOf client).corner client i ∧
      ((s.cellOf client).flight? = none → (s.cellOf client).removals = []) ∧ w.busy = u.busy := by
  cases there : s.cells.get? client with
  | none =>
    have absent := h.of_absent (by simp) there
    have cell : s.cellOf client = .empty := by
      rw [Scheduler.cellOf, there]
      rfl
    have corner (j : Nat) : (u.addSlot client).corner j = u.corner j :=
      Corner.ext (slotAt_addSlot ..) rfl rfl rfl
    have shows : (u.addSlot client).Shows s (some client) := by
      refine ⟨h.sound.addSlot absent, h.keys, h.workers, h.accepting, h.asked, h.store, h.service,
        h.line, h.trace, fun other ne => ?_⟩
      refine (h.fits other (by simp)).of_corner ?_ fun j _ => corner j
      rw [get?_addSlot, if_neg fun same => ne (congrArg some same)]
    have opened : u.opened client = (u.slots.length, u.addSlot client) := by
      simp only [Threads.opened, absent]
    refine ⟨u.slots.length, u.addSlot client, opened, shows, ?_, ?_, ?_, rfl⟩
    · rw [get?_addSlot, if_pos rfl]
    · rw [corner, cell]
      exact h.sound.corner_of_le (Nat.le_refl _)
    · rw [cell]
      exact fun _ => rfl
  | some c =>
    obtain ⟨removals, i, home, corner⟩ := h.of_present (by simp) there
    have cell := Scheduler.cellOf_of_present there
    exact ⟨i, u, by simp only [Threads.opened, home], h.aside, home, cell ▸ corner, cell ▸ removals,
      rfl⟩

theorem Shows.ticket (h : u.Shows s (some client)) :
    { u with asked := u.asked ++ [client] }.Shows { s with nextTicket := s.nextTicket + 1 }
      (some client) where
  sound := h.sound.asked _
  keys := h.keys
  workers := h.workers
  accepting := h.accepting
  asked := List.length_append.trans (congrArg (· + 1) h.asked)
  store := h.store
  service := h.service
  line := h.line
  trace := h.trace
  fits := h.fits

/-- A request for a client of which nothing runs starts a thread, which gives the ticket to the
pool. -/
theorem Shows.starts (h : w.Shows s (some client)) (home : w.table.get? client = some i)
    (corner : w.corner i = (s.cellOf client).corner client i)
    (queued : (s.cellOf client).queued = none) (running : (s.cellOf client).running = none)
    (removals : (s.cellOf client).removals = []) (busy : w.busy = s.busy) :
    ∃ actions, ((w.ask client i).2.replay service actions).Matches
      ({ s with nextTicket := s.nextTicket + 1 }.start client
        { s.cellOf client with removed := false } s.nextTicket) := by
  let c : Cell := { s.cellOf client with removed := false }
  let t : Thread := ⟨client, i, false, .starting s.nextTicket []⟩
  let asked : Threads σ := { w with asked := w.asked ++ [client] }
  let v := asked.put i { w.wanted i with running := true }
  have slot : w.slotAt i = (s.cellOf client).shared := congrArg Corner.shared corner
  have spawned : (w.ask client i).2 = v.spawn t := by
    simp only [ask, slot, Cell.shared, queued, running, h.asked, v, t, asked, wanted,
      Option.isSome_none, Bool.false_eq_true, if_false]
  obtain ⟨changed, apart⟩ := corner_put (u := asked) (h.sound.table home)
    { w.wanted i with running := true }
  obtain ⟨entered, apart'⟩ := corner_spawn v t rfl
  have flight : (s.cellOf client).flight? = none := Cell.flight?_eq_none.2 (by simp [running])
  have there : (v.spawn t).corner i = ⟨c.ending, [], [t], []⟩ := by
    refine entered.trans ?_
    rw [show v.corner t.slot = _ from changed, show asked.corner i = _ from corner, wanted, slot]
    simp [c, t, Cell.corner, Cell.waiting?, Cell.ending, Cell.shared, running, flight, removals]
  have idle : (v.spawn t).busy = w.busy := (List.countP_append ..).trans rfl
  have sound := h.sound.ask home
  rw [spawned] at sound ⊢
  have shows := h.ticket.changed home rfl sound fun j ne => (apart' j ne).trans (apart j ne)
  refine shows.start home there rfl .refl queued removals ?_
  change _ + (s.cellOf client).flight?.isSome.toNat = s.busy + 0
  rw [flight, idle, busy]
  rfl

/-- A request shares the ticket that is queued, or is given the next one. -/
theorem Matches.submit (h : u.Matches s) (client : String) :
    (u.submit client).1 = (s.submit service client).1 ∧
      ∃ actions, (u.replay service actions).Matches (s.submit service client).2 := by
  obtain ⟨h, busy⟩ := h
  obtain ⟨i, w, opened, shows, home, corner, removals, count⟩ := h.opened client
  have submitted : u.submit client = w.ask client i := by rw [Threads.submit, opened]
  have here := shows.sound.table home
  have slot : w.slotAt i = (s.cellOf client).shared := congrArg Corner.shared corner
  have sound := shows.sound.ask home
  cases queued : (s.cellOf client).queued with
  | some ticket =>
    have eq : w.ask client i = (ticket, w.put i (w.wanted i)) := by
      simp only [ask, slot, Cell.shared, queued, wanted]
    rw [Scheduler.submit_of_queued s service client queued]
    refine ⟨by rw [submitted, eq], [.submit client], ?_⟩
    change (u.submit client).2.Matches _
    obtain ⟨same, apart⟩ := corner_put here (w.wanted i)
    rw [eq] at sound
    rw [submitted, eq]
    refine (shows.changed home rfl sound apart).set home (same.trans ?_) ?_ removals rfl
      (count.trans busy)
    · rw [corner, wanted, slot]
      rfl
    · simp [Cell.isIdle, queued]
  | none =>
    cases running : (s.cellOf client).running with
    | some r =>
      let asked : Threads σ := { w with asked := w.asked ++ [client] }
      have eq : w.ask client i = (w.asked.length,
          asked.put i { w.wanted i with queued := some w.asked.length }) := by
        simp only [ask, slot, Cell.shared, queued, running, wanted, asked, Option.isSome_some,
          if_true]
      rw [Scheduler.submit_of_running s service client queued running]
      refine ⟨by rw [submitted, eq]; exact shows.asked, [.submit client], ?_⟩
      change (u.submit client).2.Matches _
      obtain ⟨same, apart⟩ := corner_put (u := asked) here
        { w.wanted i with queued := some w.asked.length }
      rw [eq] at sound
      rw [submitted, eq]
      refine (shows.ticket.changed home rfl sound apart).set home (same.trans ?_) ?_ removals rfl
        (count.trans busy)
      · rw [show asked.corner i = _ from corner, wanted, slot, shows.asked]
        rfl
      · simp [Cell.isIdle, running]
    | none =>
      have none : (s.cellOf client).removals = [] :=
        removals (Cell.flight?_eq_none.2 (by simp [running]))
      have first : (w.ask client i).1 = s.nextTicket := by
        simp only [ask, slot, Cell.shared, queued, running, ← shows.asked, Option.isSome_none,
          Bool.false_eq_true, if_false]
      rw [Scheduler.submit_of_idle s service client queued running]
      refine ⟨by rw [submitted, first], ?_⟩
      obtain ⟨actions, started⟩ :=
        shows.starts service home corner queued running none (count.trans busy)
      obtain ⟨rest, done⟩ := started.dispatch service _
      refine ⟨.submit client :: actions ++ rest, ?_⟩
      change ((u.submit client).2.replay service (actions ++ rest)).Matches _
      rw [submitted, replay_append]
      exact done

/-! ## Runs -/

theorem Shows.held {aside : Option String} (h : u.Shows s aside) (held : List String) :
    u.Shows { s with held } aside :=
  ⟨h.sound, h.keys, h.workers, h.accepting, h.asked, h.store, h.service, h.line, h.trace, h.fits⟩

theorem Matches.releaseOnce (h : u.Matches s) (client : String) :
    ∃ actions, (u.replay service actions).Matches (s.releaseOnce service client) := by
  unfold Scheduler.releaseOnce
  split
  · rename_i f flight
    obtain ⟨actions, landed⟩ := h.land service flight
    obtain ⟨rest, done⟩ := landed.dispatch service _
    exact ⟨actions ++ rest, replay_append u service actions rest ▸ done⟩
  · exact ⟨[], h⟩

theorem Matches.after (h : u.Matches s) (e : Scheduler.Event σ) :
    ∃ actions, (u.replay service actions).Matches (s.after service e) := by
  have ⟨shows, busy⟩ := h
  have sound (action : Action σ) : (u.after service action).Sound := shows.sound.after action
  cases e with
  | change c =>
    exact ⟨[.change c], ⟨sound (.change c), shows.keys, shows.workers, shows.accepting,
      shows.asked, congrArg (·.after c) shows.store, shows.service, shows.line, shows.trace,
      shows.fits⟩, busy⟩
  | alter f =>
    exact ⟨[.alter f], ⟨sound (.alter f), shows.keys, shows.workers, shows.accepting, shows.asked,
      shows.store, congrArg f shows.service, shows.line, shows.trace, shows.fits⟩, busy⟩
  | shutdown =>
    exact ⟨[.shutdown], ⟨sound .shutdown, shows.keys, shows.workers, rfl, shows.asked, shows.store,
      shows.service, shows.line, shows.trace, shows.fits⟩, busy⟩
  | submit client => exact (h.submit service client).2
  | discard client => exact h.discard service client
  | hold client => exact ⟨[], shows.held _, busy⟩
  | release client =>
    have opened : u.Matches { s with held := s.held.filter (· ≠ client) } := ⟨shows.held _, busy⟩
    exact opened.releaseOnce service client
  | releaseOnce client => exact h.releaseOnce service client

theorem matches_replay (workers : Nat) (limits : Limits) (state : σ)
    (events : List (Scheduler.Event σ)) :
    ∃ actions, ((fresh workers limits state).replay service actions).Matches
      ((Scheduler.fresh workers limits state).replay service events) := by
  induction events using List.reverseRecOn with
  | nil =>
    exact ⟨[], ⟨sound_fresh workers limits state, List.nodup_nil, rfl, rfl, rfl, rfl, rfl, rfl,
      rfl, fun _ _ => rfl⟩, rfl⟩
  | append_singleton events e ih =>
    obtain ⟨actions, before⟩ := ih
    obtain ⟨rest, done⟩ := before.after service e
    refine ⟨actions ++ rest, ?_⟩
    rw [replay_append, Scheduler.replay_append]
    exact done

theorem Shows.slotOf (h : u.Shows s none) (client : String) :
    u.slotOf client = s.slotOf client := by
  unfold Threads.slotOf Scheduler.slotOf Scheduler.cellOf
  cases there : s.cells.get? client with
  | none =>
    rw [h.of_absent (by simp) there]
    rfl
  | some c =>
    obtain ⟨-, i, home, corner⟩ := h.of_present (by simp) there
    have slot : u.slotAt i = c.shared := congrArg Corner.shared corner
    rw [home, Option.map_some, slot]
    rfl

/-- Discards answer no ticket. -/
theorem findSome?_seen (ticket : Nat) (trace : List Notice) :
    (seen trace).findSome? (Notice.answer? ticket) = trace.findSome? (Notice.answer? ticket) := by
  induction trace with
  | nil => rfl
  | cons n trace ih =>
    cases n with
    | discard client had => exact ih
    | _ =>
      unfold seen at ih ⊢
      rw [List.filter_cons_of_pos rfl, List.findSome?_cons, List.findSome?_cons, ih]

/-- Whatever the scheduler does in a run, threads do when their turns come in some order: then the
slots of all clients, the answers of all tickets, the calls of the service and who waits for a
worker are the same, and so is the ticket that is given out next. -/
theorem exists_schedule (workers : Nat) (limits : Limits) (state : σ)
    (events : List (Scheduler.Event σ)) :
    let s := (Scheduler.fresh workers limits state).replay service events
    ∃ actions, let u := (fresh workers limits state).replay service actions
      (∀ client, u.slotOf client = s.slotOf client) ∧
      (∀ ticket, u.outcome? ticket = s.outcome? ticket) ∧
      (∀ client, (u.submit client).1 = (s.submit service client).1) ∧
      seen u.trace = seen s.trace ∧ u.line.map Job.client = s.line ∧ u.busy = s.busy ∧
      u.accepting = s.accepting ∧ u.store = s.store ∧ u.service = s.service := by
  intro s
  obtain ⟨actions, h⟩ := matches_replay service workers limits state events
  have ⟨shows, busy⟩ := h
  refine ⟨actions, shows.slotOf, fun ticket => ?_, fun client => (h.submit service client).1,
    shows.trace, shows.line, busy, shows.accepting, shows.store, shows.service⟩
  have answers := congrArg (List.findSome? (Notice.answer? ticket)) shows.trace
  rwa [findSome?_seen, findSome?_seen] at answers

end ContentBlocker.Threads
