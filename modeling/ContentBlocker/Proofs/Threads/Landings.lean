import ContentBlocker.Proofs.Threads.Resting

/-!
# Compilations to their ends

A worker that takes a compilation goes on with it until it stops at the service, and then until the
pool has what is queued behind it.  Threads that do so, one after the other, do what the scheduler
does when it gives free workers to those who wait.
-/

namespace ContentBlocker.Threads

variable {σ : Type} {service : Service σ} {u : Threads σ} {s : Scheduler σ} {client : String}
  {i : Nat}

/-! ## Compilations -/

/-- The only thread that has something to do for the client aside goes on. -/
theorem Shows.goesOn (h : u.Shows s (some client)) (home : u.table.get? client = some i)
    {worker : Bool} {stage : Stage} (alone : (u.corner i).compilers = [⟨client, i, worker, stage⟩])
    (carries : stage.carries = true) {p : Phase Stage σ}
    (compiling : Compiling service client s.accepting (s.store.rulesOf client).merged
      (.start stage (u.slotAt i) s.service) p) :
    ∃ actions, (u.replay service actions).Shows (s.followed client p) (some client) ∧
      u.Follows client i p (u.replay service actions) ∧
      (u.replay service actions).corner i =
        { u.corner i with
          shared := p.shared
          jobs := (u.corner i).jobs ++ p.handed.map (⟨·, client, i⟩)
          compilers := if p.stage.isOver then [] else [⟨client, i, worker, p.stage⟩] } ∧
      (u.replay service actions).busy + worker.toNat =
        u.busy + (worker && !p.stage.isOver).toNat := by
  rw [← h.accepting, ← h.store, ← h.service] at compiling
  obtain ⟨actions, follows, corner, busy⟩ := exists_compile h.sound alone carries compiling
  exact ⟨actions, h.followed home (h.sound.replay actions) follows, follows, corner, busy⟩

/-- A thread goes on until the client's cell can be put back. -/
theorem Shows.compile (h : u.Shows s (some client)) (home : u.table.get? client = some i)
    {worker : Bool} {stage : Stage} (alone : (u.corner i).compilers = [⟨client, i, worker, stage⟩])
    (carries : stage.carries = true) {p : Phase Stage σ}
    (compiling : Compiling service client s.accepting (s.store.rulesOf client).merged
      (.start stage (u.slotAt i) s.service) p) {c : Cell}
    (corner : { u.corner i with
      shared := p.shared
      jobs := (u.corner i).jobs ++ p.handed.map (⟨·, client, i⟩)
      compilers := if p.stage.isOver then [] else [⟨client, i, worker, p.stage⟩] } =
        c.corner client i)
    (dropped : p.dropped = c.isIdle) (removals : c.flight? = none → c.removals = [])
    (busy : u.busy + (worker && !p.stage.isOver).toNat + (s.cellOf client).flight?.isSome.toNat =
      s.busy + worker.toNat + c.flight?.isSome.toNat) :
    ∃ actions, (u.replay service actions).Matches ((s.followed client p).keep client c) := by
  obtain ⟨actions, shows, follows, there, count⟩ := h.goesOn home alone carries compiling
  refine ⟨actions, shows.keep (follows.fits_kept home (there.trans corner) dropped removals), ?_⟩
  have kept := Scheduler.busy_keep (s := s.followed client p) client c h.keys
  have same : (s.followed client p).cellOf client = s.cellOf client := rfl
  have still : (s.followed client p).busy = s.busy := rfl
  rw [same, still] at kept
  omega

/-- A ticket goes to the pool, or is refused. -/
theorem Shows.start (h : u.Shows s (some client)) (home : u.table.get? client = some i) {c : Cell}
    {ticket : Nat} {x : SharedSlot} {worker : Bool} {stage : Stage}
    (corner : u.corner i = ⟨x, [], [⟨client, i, worker, stage⟩], []⟩)
    (carries : stage.carries = true)
    (starts : Compiling service client s.accepting (s.store.rulesOf client).merged
      (.start stage x s.service) (.start (.starting ticket []) c.ending s.service))
    (queued : c.queued = none) (removals : c.removals = [])
    (busy : u.busy + (s.cellOf client).flight?.isSome.toNat = s.busy + worker.toNat) :
    ∃ actions, (u.replay service actions).Matches (s.start client c ticket) := by
  have alone : (u.corner i).compilers = [⟨client, i, worker, stage⟩] := by rw [corner]
  obtain rfl : u.slotAt i = x := congrArg Corner.shared corner
  cases accepting : s.accepting with
  | true =>
    rw [accepting] at starts
    let p : Phase Stage σ :=
      { Phase.start (.refusing []) c.ending s.service with handed := [ticket] }
    let d : Cell := { c with running := some (.waiting ticket) }
    have started : s.start client c ticket = (s.followed client p).keep client d := by
      rw [Scheduler.start, if_pos accepting]
      rfl
    rw [started]
    refine h.compile home alone carries (accepting ▸ starts.trans (compiling_hand rfl)) ?_ ?_ ?_ ?_
    · rw [corner]
      simp [p, d, Phase.start, Stage.isOver, Cell.corner, Cell.waiting?, Cell.flight?, removals,
        Cell.ending, Cell.shared]
    · simp [p, d, Phase.start, Cell.isIdle]
    · exact fun _ => removals
    · simpa [p, d, Phase.start, Stage.isOver, Cell.flight?] using busy
  | false =>
    rw [accepting] at starts
    let p : Phase Stage σ :=
      { Phase.start (.refusing []) { c.ending with running := false } s.service with
        told := [.complete ticket (.error (.defect .poolClosed))]
        dropped := { c.ending with running := false }.isIdle }
    let d : Cell := { c with running := none }
    have refused : s.start client c ticket = (s.followed client p).keep client d := by
      rw [Scheduler.start, if_neg (by simp [accepting])]
      simp [p, d, Scheduler.followed, Scheduler.keep, Scheduler.note, Phase.start]
    rw [refused]
    refine h.compile home alone carries
      (accepting ▸ starts.trans (compiling_refuse rfl queued)) ?_ ?_ ?_ ?_
    · rw [corner]
      simp [p, d, Phase.start, Stage.isOver, Cell.corner, Cell.waiting?, Cell.flight?, removals,
        Cell.ending, Cell.shared]
    · simp [p, d, Cell.isIdle, SharedSlot.isIdle, SharedSlot.cell, Cell.ending, Cell.shared]
    · exact fun _ => removals
    · simpa [p, d, Phase.start, Stage.isOver, Cell.flight?] using busy

variable (service) in
/-- What is queued behind a compilation that has ended goes to the pool. -/
theorem Shows.finish (h : u.Shows s (some client)) (home : u.table.get? client = some i) {c : Cell}
    {worker : Bool}
    (corner : u.corner i = ⟨c.ending, [], [⟨client, i, worker, .handing []⟩], []⟩)
    (removals : c.removals = [])
    (busy : u.busy + (s.cellOf client).flight?.isSome.toNat = s.busy + worker.toNat) :
    ∃ actions, (u.replay service actions).Matches (s.finish client c) := by
  unfold Scheduler.finish
  cases queued : c.queued with
  | some ticket => exact h.start home corner rfl (compiling_take queued) rfl removals busy
  | none =>
    let p : Phase Stage σ :=
      { Phase.start (.refusing []) { c.ending with running := false } s.service with
        dropped := { c.ending with running := false }.isIdle }
    let d : Cell := { c with running := none, queued := none }
    have alone : (u.corner i).compilers = [⟨client, i, worker, .handing []⟩] := by rw [corner]
    have slot : u.slotAt i = c.ending := congrArg Corner.shared corner
    have kept : s.keep client d = (s.followed client p).keep client d := by
      simp [p, Scheduler.followed, Scheduler.keep, Phase.start]
    rw [kept]
    refine h.compile home alone rfl (slot ▸ compiling_finish queued) ?_ ?_ ?_ ?_
    · rw [corner]
      simp [p, d, Phase.start, Stage.isOver, Cell.corner, Cell.waiting?, Cell.flight?, removals,
        Cell.ending, Cell.shared, queued]
    · simp [p, d, Cell.isIdle, SharedSlot.isIdle, SharedSlot.cell, Cell.ending, Cell.shared, queued]
    · exact fun _ => removals
    · simpa [p, d, Phase.start, Stage.isOver, Cell.flight?] using busy

variable (service) in
/-- Discards that waited take effect one after the other. -/
theorem Shows.removeAll (h : u.Shows s (some client)) (home : u.table.get? client = some i)
    {rs : List Removal} (waits : (u.corner i).removers = rs.map (⟨client, i, ·, .waiting⟩))
    (free : (u.slotAt i).locked = false) (running : (u.slotAt i).running = true) :
    ∃ actions, (u.replay service actions).Shows (s.removeAll service client rs) (some client) ∧
      (u.replay service actions).table.get? client = some i ∧
      (u.replay service actions).corner i = { u.corner i with removers := [] } ∧
      (u.replay service actions).busy = u.busy := by
  induction rs generalizing u s with
  | nil =>
    refine ⟨[], h, home, ?_, rfl⟩
    rw [← show (u.corner i).removers = [] from waits]
    rfl
  | cons r rs ih =>
    obtain ⟨actions, follows, corner, busy⟩ :=
      exists_remove service h.sound home waits free
    have used : (u.slotAt i).isIdle = false := SharedSlot.isIdle_of_running _ running
    have shows := h.followed home (h.sound.replay actions) follows
    have slot : (u.replay service actions).slotAt i = u.slotAt i := congrArg Corner.shared corner
    have still := follows.home home used
    have issued : s.followed client (removalPhase service u client i r) =
        (s.issue service client r).note (.discard client r.hadArtifact) := by
      simp only [Scheduler.followed, removalPhase, Scheduler.issue, h.service, Notice.issue]
      cases r.maybeStored <;> simp [Scheduler.note]
    rw [issued] at shows
    obtain ⟨more, shows, there, corner', busy'⟩ := ih shows still (congrArg Corner.removers corner)
      (slot.symm ▸ free) (slot.symm ▸ running)
    refine ⟨actions ++ more, ?_⟩
    rw [replay_append]
    refine ⟨shows, there, ?_, busy'.trans busy⟩
    rw [corner', corner]

/-- What a flight leaves of a slot. -/
theorem record_shared {c : Cell} {f : Flight} (running : c.running = some (.flying f))
    (answer : Except Report Artifact) :
    { c.shared.record f answer with locked := false } = (c.landed f answer).ending := by
  have slot : (c.shared.cell.land f answer).slot = (c.land f answer).slot := by
    unfold Cell.land
    by_cases epoch : c.epoch = f.epoch
    · rw [if_pos epoch, if_pos (show c.shared.cell.epoch = _ from epoch)]
      cases answer <;> rfl
    · rw [if_neg epoch, if_neg (show c.shared.cell.epoch ≠ _ from epoch)]
      rfl
  rw [Cell.landed_eq, SharedSlot.record, slot]
  simp [Cell.ending, Cell.shared, running]

variable (service) in
/-- What the service answers ends a compilation that is there. -/
theorem Matches.land (h : u.Matches s) {f : Flight} (flight : (s.cellOf client).flight? = some f) :
    ∃ actions, (u.replay service actions).Matches (s.land service client f) := by
  obtain ⟨h, busy⟩ := h
  let c := s.cellOf client
  have running : c.running = some (.flying f) := Cell.running_of_flight _ flight
  have present : s.cells.get? client = some c := by
    cases there : s.cells.get? client with
    | none => simp [Scheduler.cellOf, there, Cell.empty, Cell.flight?] at flight
    | some d => simp [c, Scheduler.cellOf, there]
  obtain ⟨-, i, home, corner⟩ := h.of_present (by simp) present
  have slot : u.slotAt i = c.shared := congrArg Corner.shared corner
  have alone : (u.corner i).compilers = [⟨client, i, true, .calling f⟩] := by
    simp [corner, Cell.corner, c, flight]
  -- the thread comes back from the service and gives back the lock
  let answer := service.compile (listIdentifier client) f.conversion.document s.service
  let d := c.landed f answer.1
  let noted := ({ s with service := answer.2 }.note
    (.compile client f.conversion.document answer.1.isOk)).note
      (.complete f.ticket (c.outcome client f answer.1))
  let p : Phase Stage σ :=
    { Phase.start (.handing []) { c.shared.record f answer.1 with locked := false } answer.2 with
      told :=
        [.complete f.ticket (c.outcome client f answer.1),
          .compile client f.conversion.document answer.1.isOk] }
  have lands : Compiling service client s.accepting (s.store.rulesOf client).merged
      (.start (.calling f) (u.slotAt i) s.service) p := by
    rw [slot]
    exact compiling_land f
  obtain ⟨actions, shows, follows, corner₁, busy₁⟩ := h.aside.goesOn home alone rfl lands
  have home₁ := follows.home home rfl
  replace shows : (u.replay service actions).Shows noted (some client) := by
    simpa [p, noted, Scheduler.note, Scheduler.followed, Phase.start] using shows
  replace corner₁ : (u.replay service actions).corner i =
      ⟨d.ending, [], [⟨client, i, true, .handing []⟩],
        c.removals.map (⟨client, i, ·, .waiting⟩)⟩ := by
    rw [corner₁, corner, ← record_shared running]
    simp [p, Cell.corner, Cell.waiting?, running, Phase.start, Stage.isOver]
  -- the discards that waited take their turns
  have slot₁ : (u.replay service actions).slotAt i = d.ending := congrArg Corner.shared corner₁
  obtain ⟨more, waited, home₂, corner₂, busy₂⟩ := shows.removeAll service home₁
    (congrArg Corner.removers corner₁) (slot₁ ▸ rfl) (slot₁ ▸ rfl)
  rw [corner₁] at corner₂
  -- the thread looks for what is queued
  obtain ⟨trace, state, removed⟩ := noted.exists_removeAll service client c.removals
  obtain ⟨rest, done⟩ := waited.finish service home₂ corner₂ rfl (by
    rw [busy₂, Nat.add_right_cancel busy₁, busy, removed]
    exact congrArg (s.busy + ·.isSome.toNat) flight)
  refine ⟨actions ++ more ++ rest, ?_⟩
  rw [replay_append, replay_append]
  exact done

variable (service) in
/-- A worker that has come to the slot of a client ends its compilation, or stops at the service. -/
theorem Shows.takeOff (h : u.Shows s (some client)) (home : u.table.get? client = some i)
    {ticket : Nat} (running : (s.cellOf client).running = some (.waiting ticket))
    (corner : u.corner i =
      ⟨(s.cellOf client).shared, [], [⟨client, i, true, .entering ticket⟩], []⟩)
    (removals : (s.cellOf client).removals = []) (busy : u.busy = s.busy + 1) :
    ∃ actions, (u.replay service actions).Matches (s.takeOff service client ticket) := by
  let c := s.cellOf client
  have flight : c.flight? = none := Cell.flight?_of_waiting running
  have slot : u.slotAt i = c.shared := congrArg Corner.shared corner
  have free : c.shared.locked = false := by simp [Cell.shared, flight]
  have alone : (u.corner i).compilers = [⟨client, i, true, .entering ticket⟩] := by rw [corner]
  unfold Scheduler.takeOff
  dsimp only
  split
  · rename_i empty
    have skips : Compiling service client s.accepting (s.store.rulesOf client).merged
        (.start (.entering ticket) (u.slotAt i) s.service)
        { Phase.start (.handing []) c.ending s.service with
          told := [.complete ticket (.ok (.ofSkipped client))] } := by
      have ending : c.ending = c.shared := by
        simp [Cell.ending, Cell.shared, flight, show c.running = _ from running]
      rw [slot, ending]
      exact compiling_skip free (List.isEmpty_iff.1 empty)
    obtain ⟨actions, shows, follows, corner₁, busy₁⟩ := h.goesOn home alone rfl skips
    replace shows : (u.replay service actions).Shows
        (s.note (.complete ticket (.ok (.ofSkipped client)))) (some client) := by
      simpa [Scheduler.note, Scheduler.followed, Phase.start] using shows
    rw [corner] at corner₁
    obtain ⟨rest, done⟩ := shows.finish service
      (follows.home home rfl) corner₁ removals (by
        change _ + c.flight?.isSome.toNat = s.busy + 1
        rw [flight]
        exact (Nat.add_right_cancel busy₁).trans busy)
    exact ⟨actions ++ rest, replay_append u service actions rest ▸ done⟩
  · rename_i rules
    let f : Flight := ⟨ticket, c.epoch, .ofRules (s.store.rulesOf client).merged⟩
    let p : Phase Stage σ := .start (.calling f)
      { c.shared with slot := { c.slot with state := .compiling }, locked := true } s.service
    have calls : Compiling service client s.accepting (s.store.rulesOf client).merged
        (.start (.entering ticket) (u.slotAt i) s.service) p := by
      rw [slot]
      exact compiling_call free (by simpa using rules)
    have flown : (s.followed client p).keep client (c.takeOff f) =
        { s with cells := s.cells.set client (c.takeOff f) } := by
      rw [Scheduler.keep_of_used rfl]
      simp [p, Scheduler.followed, Phase.start]
    obtain ⟨actions, flies⟩ := h.compile home alone rfl calls (c := c.takeOff f)
      (by
        rw [corner]
        simp [p, f, c, Phase.start, Stage.isOver, Cell.corner, Cell.shared, Cell.takeOff,
          Cell.flight?, Cell.waiting?, running, removals])
      rfl (fun none => absurd none (by simp [Cell.takeOff, Cell.flight?]))
      (by
        change _ + 1 + c.flight?.isSome.toNat = _ + 1 + 1
        rw [flight, busy]
        rfl)
    rw [flown] at flies
    split
    · exact ⟨actions, flies⟩
    · let stopped : Scheduler σ := { s with cells := s.cells.set client (c.takeOff f) }
      have flying : (stopped.cellOf client).flight? = some f := by
        rw [show stopped.cellOf client = c.takeOff f by
          simp [stopped, Scheduler.cellOf, Table.get?_set]]
        rfl
      obtain ⟨rest, lands⟩ := flies.land service flying
      exact ⟨actions ++ rest, replay_append u service actions rest ▸ lands⟩

/-! ## Workers that become free -/

/-- The client of a job waits for a worker, and nothing else happens in its corner. -/
theorem Shows.waits (h : u.Shows s none) {job : Job} {rest : List Job}
    (line : u.line = job :: rest) :
    (s.cellOf job.client).running = some (.waiting job.ticket) ∧
      (s.cellOf job.client).removals = [] ∧ rest.filter (·.slot = job.slot) = [] ∧
      u.corner job.slot = ⟨(s.cellOf job.client).shared, [job], [], []⟩ := by
  have home : u.table.get? job.client = some job.slot := h.sound.line (by simp [line])
  cases present : s.cells.get? job.client with
  | none => cases home.symm.trans (h.of_absent (by simp) present)
  | some c =>
    obtain ⟨removals, i, there, corner⟩ := h.of_present (by simp) present
    obtain rfl : job.slot = i := Option.some.inj (home.symm.trans there)
    rw [Scheduler.cellOf_of_present present]
    have jobs : job :: rest.filter (·.slot = job.slot) =
        c.waiting?.toList.map (⟨·, job.client, job.slot⟩) := by
      refine Eq.trans ?_ (congrArg Corner.jobs corner)
      simp [Threads.corner, line]
    cases waiting : c.waiting? with
    | none => simp [waiting] at jobs
    | some ticket =>
      simp only [waiting, Option.toList_some, List.map_cons, List.map_nil, List.cons.injEq] at jobs
      obtain ⟨first, alone⟩ := jobs
      obtain rfl : ticket = job.ticket := by rw [first]
      have running := c.running_of_waiting? waiting
      have flight := Cell.flight?_of_waiting running
      refine ⟨running, removals flight, alone, corner.trans ?_⟩
      simp [Cell.corner, waiting, ← first, flight, removals flight]

/-- A free worker takes what has waited longest. -/
theorem Matches.pick (h : u.Matches s) {rest : List String} (line : s.line = client :: rest)
    (free : s.busy < s.workers) :
    ∃ ticket i, (s.cellOf client).running = some (.waiting ticket) ∧
      (s.cellOf client).removals = [] ∧ u.pick.Shows { s with line := rest } (some client) ∧
      u.pick.table.get? client = some i ∧
      u.pick.corner i =
        ⟨(s.cellOf client).shared, [], [⟨client, i, true, .entering ticket⟩], []⟩ ∧
      u.pick.busy = s.busy + 1 := by
  obtain ⟨h, busy⟩ := h
  have clients := h.line
  rw [line] at clients
  cases waits : u.line with
  | nil => simp [waits] at clients
  | cons job jobs =>
    rw [waits] at clients
    obtain ⟨rfl, rfl⟩ := List.cons.inj clients
    obtain ⟨running, removals, alone, corner⟩ := h.waits waits
    have home : u.table.get? job.client = some job.slot := h.sound.line (by simp [waits])
    let t : Thread := ⟨job.client, job.slot, true, .entering job.ticket⟩
    let left : Threads σ := { u with line := jobs }
    have picked : u.pick = left.spawn t := by
      have room : u.busy < u.workers := by rwa [busy, h.workers]
      simp only [Threads.pick, waits, room, if_true, left, t]
    obtain ⟨entered, apart⟩ := corner_spawn left t rfl
    obtain ⟨shared, -, compilers, removers⟩ := Corner.ext_iff.1 corner
    have here : left.corner job.slot = ⟨(s.cellOf job.client).shared, [], [], []⟩ :=
      Corner.ext shared alone compilers removers
    have elsewhere (j : Nat) (ne : j ≠ job.slot) : (left.spawn t).corner j = u.corner j := by
      refine (apart j ne).trans (Corner.ext rfl ?_ rfl rfl)
      simp [Threads.corner, left, waits, Ne.symm ne]
    have sound := h.sound.pick
    rw [picked] at sound ⊢
    refine ⟨job.ticket, job.slot, running, removals, ?_, home, ?_, ?_⟩
    · refine ⟨sound, h.keys, h.workers, h.accepting, h.asked, h.store, h.service, rfl, h.trace, ?_⟩
      intro other ne
      have fits := h.fits other (by simp)
      exact fits.apart h.sound home (fun same => ne (by rw [same])) rfl elsewhere
    · rw [show job.slot = t.slot from rfl, entered, show left.corner t.slot = _ from here]
      rfl
    · rw [← busy]
      exact (List.countP_append ..).trans rfl

/-- Free workers take what waits, in as many rounds. -/
theorem Matches.dispatch (h : u.Matches s) (service : Service σ) (fuel : Nat) :
    ∃ actions, (u.replay service actions).Matches (Scheduler.dispatch service fuel s) := by
  induction fuel generalizing u s with
  | zero => exact ⟨[], h⟩
  | succ fuel ih =>
    rw [Scheduler.dispatch]
    split
    · exact ⟨[], h⟩
    · rename_i client rest line
      split
      · rename_i free
        obtain ⟨ticket, i, running, removals, shows, home, corner, busy⟩ := h.pick line free
        have same : ({ s with line := rest } : Scheduler σ).cellOf client = s.cellOf client := rfl
        simp only [same, running]
        obtain ⟨actions, took⟩ := shows.takeOff service home running corner removals busy
        obtain ⟨more, done⟩ := ih took
        refine ⟨.pick :: actions ++ more, ?_⟩
        rw [replay_append]
        exact done
      · exact ⟨[], h⟩

end ContentBlocker.Threads
