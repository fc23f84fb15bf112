import ContentBlocker.Proofs.Compile.Tickets
import ContentBlocker.Proofs.Table
import Mathlib.Data.List.Induction

/-!
# Workers, line and gates

Between two operations every compilation has its place: it stands in the line for a worker, once, or
it is stopped at a closed gate and keeps one worker.  Nobody waits while a worker is free:
`resting_replay` says so of every run, and `idle_of_no_gates` that nothing is left to do once all
gates are open.
-/

namespace ContentBlocker.Scheduler

variable {σ : Type} (s : Scheduler σ) (service : Service σ) (client : String)

/-! ## What parts of steps leave as it is -/

theorem exists_removeAll (rs : List Removal) :
    ∃ trace state, s.removeAll service client rs = { s with trace, service := state } := by
  induction rs generalizing s with
  | nil => exact ⟨_, _, rfl⟩
  | cons r rs ih =>
    have issued : ∃ trace state, (s.issue service client r).note (.discard client r.hadArtifact) =
        { s with trace, service := state } := by
      unfold issue
      split <;> exact ⟨_, _, rfl⟩
    obtain ⟨trace, state, eq⟩ := issued
    obtain ⟨trace', state', eq'⟩ := ih { s with trace, service := state }
    exact ⟨trace', state', by rw [← eq', ← eq]; rfl⟩

/-- A landing calls the service and tells of it; then the client's compilation is finished. -/
theorem exists_land (f : Flight) : ∃ trace state answer, s.land service client f =
    { s with trace, service := state }.finish client ((s.cellOf client).landed f answer) := by
  let answer := service.compile (listIdentifier client) f.conversion.document s.service
  let noted : Scheduler σ := ({ s with service := answer.2 }.note
    (.compile client f.conversion.document answer.1.isOk)).note
      (.complete f.ticket ((s.cellOf client).outcome client f answer.1))
  obtain ⟨trace, state, eq⟩ := exists_removeAll noted service client (s.cellOf client).removals
  have landed : s.land service client f =
      (noted.removeAll service client (s.cellOf client).removals).finish client
        ((s.cellOf client).landed f answer.1) := rfl
  exact ⟨trace, state, answer.1, by rw [landed, eq]; rfl⟩

theorem start_eq_finish {c : Cell} (queued : c.queued = none) (ticket : Nat) :
    s.start client c ticket = s.finish client { c with queued := some ticket } := by
  unfold finish
  rw [← queued]

theorem finish_held (c : Cell) : (s.finish client c).held = s.held := by
  unfold finish start
  split
  · split <;> rfl
  · rfl

theorem finish_workers (c : Cell) : (s.finish client c).workers = s.workers := by
  unfold finish start
  split
  · split <;> rfl
  · rfl

theorem finish_cells (c : Cell) :
    (s.finish client c).cells = (s.keep client (c.next s.accepting)).cells := by
  unfold finish start Cell.next
  cases c.queued <;> cases s.accepting <;> rfl

/-- A client with a queued compilation goes to the end of the line. -/
theorem finish_line (c : Cell) :
    (s.finish client c).line =
      s.line ++ if (c.next s.accepting).running.isSome then [client] else [] := by
  unfold finish start Cell.next
  cases c.queued <;> cases s.accepting <;> simp [keep, note]

/-! ## Counting cells -/

section Count

variable {s} (c : Cell)

theorem nodup_keep (nodup : s.cells.keys.Nodup) : (s.keep client c).cells.keys.Nodup := by
  unfold keep
  split
  · exact Table.nodup_keys_erase nodup
  · exact Table.nodup_keys_set nodup c

/-- Putting a cell back counts it in place of the one before. -/
theorem count_keep {q : Cell → Bool} (idle : ∀ {c : Cell}, c.isIdle → q c = false)
    (nodup : s.cells.keys.Nodup) :
    (s.keep client c).cells.countP (q ·.2) + (q (s.cellOf client)).toNat =
      s.cells.countP (q ·.2) + (q c).toNat := by
  have before : q (s.cellOf client) = (s.cells.get? client).any q := by
    unfold cellOf
    cases s.cells.get? client with
    | none => exact idle (c := .empty) rfl
    | some c => rfl
  rw [before]
  unfold keep
  split
  · rename_i unused
    rw [idle unused]
    exact Table.countP_erase q nodup
  · exact Table.countP_set q s.cells client c

theorem busy_eq_countP : s.busy = s.cells.countP fun p => p.2.flight?.isSome := by
  rw [busy, List.countP_eq_length_filter]

variable {c} in
theorem flight?_of_isIdle (idle : c.isIdle) : c.flight?.isSome = false := by
  simp only [Cell.isIdle, Bool.and_eq_true, Option.isNone_iff_eq_none] at idle
  rw [Cell.flight?_eq_none.2 (by simp [idle.1.1])]
  rfl

theorem busy_keep (nodup : s.cells.keys.Nodup) :
    (s.keep client c).busy + (s.cellOf client).flight?.isSome.toNat =
      s.busy + c.flight?.isSome.toNat := by
  rw [busy_eq_countP, busy_eq_countP]
  exact count_keep client c (q := fun c => c.flight?.isSome) flight?_of_isIdle nodup

/-- A busy worker is at the service for some client. -/
theorem exists_flight_of_busy (nodup : s.cells.keys.Nodup) (busy : 0 < s.busy) :
    ∃ client f, (s.cellOf client).flight? = some f := by
  rw [busy_eq_countP, List.countP_pos_iff] at busy
  obtain ⟨⟨client, c⟩, mem, flies⟩ := busy
  obtain ⟨f, flight⟩ := Option.isSome_iff_exists.1 flies
  refine ⟨client, f, ?_⟩
  rw [cellOf, Table.get?_of_mem nodup mem]
  exact flight

end Count

/-! ## Places -/

/-- Every client but the one aside has its place: in the line if it waits for a worker, at a closed
gate if it keeps one. -/
structure Staffed (s : Scheduler σ) (aside : Option String) : Prop where
  keys : s.cells.keys.Nodup
  line : s.line.Nodup
  absent : ∀ client, aside = some client → client ∉ s.line
  waits : ∀ client, aside ≠ some client →
    (client ∈ s.line ↔ ∃ ticket, (s.cellOf client).running = some (.waiting ticket))
  stopped : ∀ client f, aside ≠ some client → (s.cellOf client).flight? = some f → client ∈ s.held
  within : s.busy ≤ s.workers

/-- Nobody waits while a worker is free. -/
def Settled (s : Scheduler σ) : Prop := s.line = [] ∨ s.workers ≤ s.busy

variable {s service client}

theorem cellOf_keep (s : Scheduler σ) (client : String) (c : Cell) (other : String) :
    (s.keep client c).cellOf other =
      if other = client then c.kept.getD .empty else s.cellOf other := by
  rw [← view_cellOf, view_keep, View.cellOf_turned]
  rfl

theorem cellOf_finish (s : Scheduler σ) (client : String) (c : Cell) (other : String) :
    (s.finish client c).cellOf other =
      if other = client then (c.next s.accepting).kept.getD .empty else s.cellOf other := by
  rw [cellOf, finish_cells]
  exact cellOf_keep ..

theorem flight?_of_running {c d : Cell} (same : c.running = d.running) : c.flight? = d.flight? := by
  unfold Cell.flight?
  rw [same]

theorem flight?_kept (c : Cell) : (c.kept.getD .empty).flight? = c.flight? :=
  flight?_of_running c.running_kept

theorem waiting_next {accepting : Bool} {c : Cell} :
    (c.next accepting).running.isSome ↔
      ∃ ticket, (c.next accepting).running = some (.waiting ticket) := by
  unfold Cell.next
  cases accepting <;> cases c.queued <;> simp

/-- A finished compilation makes room for the queued one: it is in the line or refused. -/
theorem Staffed.finish {c : Cell} (h : s.Staffed (some client)) :
    (s.finish client c).Staffed none := by
  have cell := s.cellOf_finish client c
  have absent := h.absent client rfl
  have still {other : String} (ne : other ≠ client) : some client ≠ some other :=
    fun same => ne (Option.some.inj same).symm
  constructor
  · rw [finish_cells]
    exact nodup_keep client _ h.keys
  · rw [finish_line]
    split
    · exact List.nodup_append.2 ⟨h.line, by simp, by
        intro a mem b last same
        rw [List.mem_singleton.1 last] at same
        exact absent (same ▸ mem)⟩
    · simpa using h.line
  · intro other none
    cases none
  · intro other _
    rw [cell, finish_line]
    by_cases here : other = client
    · subst here
      rw [if_pos rfl, Cell.running_kept, ← waiting_next]
      split <;> simp_all
    · rw [if_neg here, ← h.waits other (still here)]
      split <;> simp [here]
  · intro other f _ flight
    rw [cell] at flight
    rw [finish_held]
    split at flight
    · rw [flight?_kept, Cell.flight?_next] at flight
      cases flight
    · rename_i ne
      exact h.stopped other f (still ne) flight
  · have busy := busy_keep client (c.next s.accepting) h.keys
    rw [Cell.flight?_next] at busy
    have same : (s.finish client c).busy = (s.keep client (c.next s.accepting)).busy := by
      rw [Scheduler.busy, finish_cells, Scheduler.busy]
    have within := h.within
    rw [same, finish_workers]
    simp only [Option.isSome_none, Bool.toNat_false] at busy
    omega

theorem Staffed.land {f : Flight} (h : s.Staffed (some client)) :
    (s.land service client f).Staffed none := by
  obtain ⟨trace, state, answer, eq⟩ := exists_land s service client f
  rw [eq]
  have same : ({ s with trace, service := state } : Scheduler σ).Staffed (some client) :=
    ⟨h.keys, h.line, h.absent, h.waits, h.stopped, h.within⟩
  exact same.finish

/-- The client at the head of the line is taken out of it. -/
theorem Staffed.pop {rest : List String} (h : s.Staffed none) (line : s.line = client :: rest) :
    ({ s with line := rest } : Scheduler σ).Staffed (some client) := by
  have nodup := h.line
  rw [line] at nodup
  obtain ⟨absent, nodup⟩ := List.nodup_cons.1 nodup
  refine ⟨h.keys, nodup, ?_, ?_, ?_, h.within⟩
  · intro other same
    exact Option.some.inj same ▸ absent
  · intro other ne
    have waits := h.waits other (by simp)
    rw [line, List.mem_cons] at waits
    have apart : other ≠ client := fun same => ne (congrArg some same.symm)
    change _ ↔ ∃ ticket, (s.cellOf other).running = _
    simpa [apart] using waits
  · exact fun other f _ => h.stopped other f (by simp)

/-- A client at the service is in no line. -/
theorem Staffed.of_flight {f : Flight} (h : s.Staffed none)
    (flight : (s.cellOf client).flight? = some f) : s.Staffed (some client) := by
  refine ⟨h.keys, h.line, ?_, fun other _ => h.waits other (by simp),
    fun other f _ => h.stopped other f (by simp), h.within⟩
  intro other same mem
  obtain ⟨ticket, waiting⟩ := (h.waits other (by simp)).1 mem
  rw [← Option.some.inj same, Cell.running_of_flight _ flight] at waiting
  cases waiting

/-- A client at the service has its place if its gate is closed. -/
theorem Staffed.of_stopped {f : Flight} (h : s.Staffed (some client))
    (flight : (s.cellOf client).flight? = some f) (held : client ∈ s.held) : s.Staffed none := by
  refine ⟨h.keys, h.line, (fun _ none => by cases none), ?_, ?_, h.within⟩
  · intro other _
    by_cases here : other = client
    · subst here
      rw [Cell.running_of_flight _ flight]
      simpa using h.absent other rfl
    · exact h.waits other fun same => here (Option.some.inj same).symm
  · intro other g _ flight
    by_cases here : other = client
    · exact here ▸ held
    · exact h.stopped other g (fun same => here (Option.some.inj same).symm) flight

/-- A free worker takes a client to the service. -/
theorem Staffed.fly (h : s.Staffed (some client)) (free : s.busy < s.workers) (f : Flight) :
    { s with cells := s.cells.set client ((s.cellOf client).takeOff f) }.Staffed (some client) := by
  have kept : { s with cells := s.cells.set client ((s.cellOf client).takeOff f) } =
      s.keep client ((s.cellOf client).takeOff f) := rfl
  have apart {other : String} (ne : some client ≠ some other) :
      (s.keep client ((s.cellOf client).takeOff f)).cellOf other = s.cellOf other := by
    rw [cellOf_keep, if_neg fun same => ne (congrArg some same.symm)]
  rw [kept]
  refine ⟨nodup_keep client _ h.keys, h.line, h.absent, ?_, ?_, ?_⟩
  · intro other ne
    rw [apart ne]
    exact h.waits other ne
  · intro other g ne flight
    rw [apart ne] at flight
    exact h.stopped other g ne flight
  · have busy := busy_keep client ((s.cellOf client).takeOff f) h.keys
    change _ ≤ s.workers
    have one := Bool.toNat_le ((s.cellOf client).takeOff f).flight?.isSome
    omega

theorem Staffed.takeOff {ticket : Nat} (h : s.Staffed (some client)) (free : s.busy < s.workers) :
    (s.takeOff service client ticket).Staffed none := by
  unfold Scheduler.takeOff
  dsimp only
  split
  · have same : (s.note (.complete ticket (.ok (.ofSkipped client)))).Staffed (some client) :=
      ⟨h.keys, h.line, h.absent, h.waits, h.stopped, h.within⟩
    exact same.finish
  · split
    · rename_i held
      let f : Flight := ⟨ticket, (s.cellOf client).epoch, .ofRules (s.store.rulesOf client).merged⟩
      refine (h.fly free f).of_stopped (f := f) ?_ (List.contains_iff_mem.1 held)
      simp only [cellOf, Table.get?_set, if_true, Option.getD_some]
      rfl
    · exact (h.fly free _).land

/-! ## Settling -/

/-- The number of tickets that are in the line or queued. -/
def load (s : Scheduler σ) : Nat := s.line.length + s.cells.countP fun p => p.2.queued.isSome

theorem load_lt_backlog (s : Scheduler σ) : s.load < s.backlog + 1 := by
  have queued := List.countP_le_length (l := s.cells) (p := fun p => p.2.queued.isSome)
  unfold load backlog
  omega

theorem queued_of_isIdle {c : Cell} (idle : c.isIdle) : c.queued.isSome = false := by
  simp only [Cell.isIdle, Bool.and_eq_true, Option.isNone_iff_eq_none] at idle
  rw [idle.1.2]
  rfl

/-- What was queued goes to the line or is refused. -/
theorem load_finish_le {c : Cell} (nodup : s.cells.keys.Nodup)
    (queued : c.queued = (s.cellOf client).queued) : (s.finish client c).load ≤ s.load := by
  have count := count_keep client (c.next s.accepting) (q := fun c => c.queued.isSome)
    queued_of_isIdle nodup
  have next : (c.next s.accepting).queued = none := rfl
  have line : (if (c.next s.accepting).running.isSome then [client] else []).length ≤
      c.queued.isSome.toNat := by
    unfold Cell.next
    cases s.accepting <;> cases c.queued <;> simp
  simp only [next, ← queued, Option.isSome_none, Bool.toNat_false] at count
  rw [load, load, finish_line, finish_cells, List.length_append]
  omega

theorem load_land_le {f : Flight} (nodup : s.cells.keys.Nodup) :
    (s.land service client f).load ≤ s.load := by
  obtain ⟨trace, state, answer, eq⟩ := exists_land s service client f
  rw [eq]
  exact load_finish_le nodup (Cell.landed_queued ..)

theorem load_takeOff_le {ticket : Nat} (nodup : s.cells.keys.Nodup) :
    (s.takeOff service client ticket).load ≤ s.load := by
  have flown (f : Flight) :
      { s with cells := s.cells.set client ((s.cellOf client).takeOff f) }.load = s.load := by
    have count := count_keep client ((s.cellOf client).takeOff f) (q := fun c => c.queued.isSome)
      queued_of_isIdle nodup
    exact congrArg (s.line.length + ·) (Nat.add_right_cancel count)
  unfold Scheduler.takeOff
  dsimp only
  split
  · exact load_finish_le (s := s.note (.complete ticket (.ok (.ofSkipped client)))) nodup rfl
  · split
    · exact Nat.le_of_eq (flown _)
    · rw [← flown]
      exact load_land_le (Table.nodup_keys_set nodup _)

/-- With fuel above the load, free workers are given out until nobody waits or none is free. -/
theorem Staffed.dispatch {fuel : Nat} (h : s.Staffed none) (enough : s.load < fuel) :
    (dispatch service fuel s).Staffed none ∧ (dispatch service fuel s).Settled := by
  induction fuel generalizing s with
  | zero => exact absurd enough (Nat.not_lt_zero _)
  | succ fuel ih =>
    rw [Scheduler.dispatch]
    split
    · rename_i line
      exact ⟨h, .inl line⟩
    · rename_i client rest line
      split
      · rename_i free
        obtain ⟨ticket, running⟩ :=
          (h.waits client (by simp)).1 (line ▸ List.mem_cons_self)
        have popped := h.pop line
        have less : ({ s with line := rest } : Scheduler σ).load + 1 = s.load := by
          unfold load
          rw [line]
          exact Nat.add_right_comm ..
        have same : ({ s with line := rest } : Scheduler σ).cellOf client = s.cellOf client := rfl
        simp only [same, running]
        have left : (({ s with line := rest } : Scheduler σ).takeOff service client ticket).load ≤
          _ := load_takeOff_le popped.keys
        exact ih (popped.takeOff free) (by omega)
      · rename_i full
        exact ⟨h, .inr (Nat.not_lt.1 full)⟩

/-- Between two operations everybody has a place, and nobody waits while a worker is free. -/
def Resting (s : Scheduler σ) : Prop := s.Staffed none ∧ s.Settled

theorem Staffed.settle (h : s.Staffed none) : (s.settle service).Resting :=
  h.dispatch (load_lt_backlog s)

/-! ## Operations -/

/-- The place of a client depends on nothing but the compilation that runs. -/
theorem Resting.keep (h : s.Resting) {c : Cell} (running : c.running = (s.cellOf client).running) :
    (s.keep client c).Resting := by
  obtain ⟨staffed, settled⟩ := h
  have same (other : String) : ((s.keep client c).cellOf other).running =
      (s.cellOf other).running := by
    rw [cellOf_keep]
    split
    · rename_i here
      rw [here, Cell.running_kept, running]
    · rfl
  have busy : (s.keep client c).busy = s.busy := by
    have count := busy_keep client c staffed.keys
    rw [flight?_of_running running] at count
    exact Nat.add_right_cancel count
  have workers : (s.keep client c).workers = s.workers := rfl
  refine ⟨⟨nodup_keep client c staffed.keys, staffed.line, staffed.absent, ?_, ?_, ?_⟩, ?_⟩
  · intro other ne
    rw [same]
    exact staffed.waits other ne
  · intro other f ne flight
    rw [flight?_of_running (same other)] at flight
    exact staffed.stopped other f ne flight
  · rw [busy, workers]
    exact staffed.within
  · rw [Settled, busy, workers]
    exact settled

theorem keep_of_used {c : Cell} (used : c.isIdle = false) :
    s.keep client c = { s with cells := s.cells.set client c } := by
  unfold Scheduler.keep
  rw [used]
  rfl

theorem Resting.submit (h : s.Resting) : (s.submit service client).2.Resting := by
  cases queued : (s.cellOf client).queued with
  | some ticket =>
    rw [submit_of_queued s service client queued, ← keep_of_used (by simp [Cell.isIdle, queued])]
    exact h.keep rfl
  | none =>
    cases running : (s.cellOf client).running with
    | some r =>
      rw [submit_of_running s service client queued running]
      have kept : (s.keep client
          { s.cellOf client with removed := false, queued := some s.nextTicket }).Resting :=
        h.keep rfl
      rw [keep_of_used (by simp [Cell.isIdle, running])] at kept
      obtain ⟨staffed, settled⟩ := kept
      exact ⟨⟨staffed.keys, staffed.line, staffed.absent, staffed.waits, staffed.stopped,
        staffed.within⟩, settled⟩
    | none =>
      rw [submit_of_idle s service client queued running]
      obtain ⟨staffed, -⟩ := h
      rw [start_eq_finish _ _ (c := { s.cellOf client with removed := false }) queued]
      have aside : ({ s with nextTicket := s.nextTicket + 1 } : Scheduler σ).Staffed
          (some client) := by
        refine ⟨staffed.keys, staffed.line, ?_, fun other _ => staffed.waits other (by simp),
          fun other f _ => staffed.stopped other f (by simp), staffed.within⟩
        intro other same mem
        obtain ⟨ticket, waiting⟩ := (staffed.waits other (by simp)).1 mem
        rw [← Option.some.inj same, running] at waiting
        cases waiting
      exact aside.finish.settle

theorem Resting.discard (h : s.Resting) : (s.discard service client).2.Resting := by
  unfold Scheduler.discard
  cases here : s.cells.get? client with
  | none => exact h
  | some c =>
    have cell : s.cellOf client = c := by
      rw [cellOf, here]
      rfl
    dsimp only
    cases flight : c.flight? with
    | some f =>
      have running := Cell.running_of_flight _ flight
      dsimp only
      rw [← keep_of_used (by simp [Cell.isIdle, Cell.discarded, running])]
      exact h.keep (by rw [cell]; rfl)
    | none =>
      have issued : (s.issue service client c.removal).Resting := by
        unfold issue
        split
        · obtain ⟨staffed, settled⟩ := h
          exact ⟨⟨staffed.keys, staffed.line, staffed.absent, staffed.waits, staffed.stopped,
            staffed.within⟩, settled⟩
        · exact h
      refine issued.keep ?_
      have same : (s.issue service client c.removal).cellOf client = s.cellOf client := by
        unfold issue
        split <;> rfl
      rw [same, cell]
      rfl

/-- Opening the gate of a client lets its compilation land. -/
theorem Resting.release (h : s.Resting) : (s.release service client).Resting := by
  obtain ⟨staffed, settled⟩ := h
  unfold Scheduler.release releaseOnce
  cases flight : (s.cellOf client).flight? with
  | some f =>
    have same : ({ s with held := s.held.filter (· ≠ client) } : Scheduler σ).cellOf client =
      s.cellOf client := rfl
    rw [same, flight]
    have flying := staffed.of_flight flight
    have opened : ({ s with held := s.held.filter (· ≠ client) } : Scheduler σ).Staffed
        (some client) := by
      refine ⟨flying.keys, flying.line, flying.absent, flying.waits, ?_, flying.within⟩
      intro other f ne stopped
      have held := flying.stopped other f ne stopped
      exact List.mem_filter.2 ⟨held, by simpa using fun same => ne (congrArg some same.symm)⟩
    exact opened.land.settle
  | none =>
    have same : ({ s with held := s.held.filter (· ≠ client) } : Scheduler σ).cellOf client =
      s.cellOf client := rfl
    rw [same, flight]
    refine ⟨⟨staffed.keys, staffed.line, staffed.absent, staffed.waits, ?_, staffed.within⟩,
      settled⟩
    intro other f ne stopped
    have held := staffed.stopped other f ne stopped
    refine List.mem_filter.2 ⟨held, ?_⟩
    have apart : other ≠ client := by
      rintro rfl
      exact Option.some_ne_none f (Eq.trans stopped.symm flight)
    simpa using apart

theorem Resting.releaseOnce (h : s.Resting) : (s.releaseOnce service client).Resting := by
  unfold Scheduler.releaseOnce
  cases flight : (s.cellOf client).flight? with
  | some f => exact (h.1.of_flight flight).land.settle
  | none => exact h

theorem Resting.after (h : s.Resting) (e : Event σ) : (s.after service e).Resting := by
  have ⟨staffed, settled⟩ := h
  cases e with
  | submit client => exact h.submit
  | discard client => exact h.discard
  | release client => exact h.release
  | releaseOnce client => exact h.releaseOnce
  | hold client =>
    refine ⟨⟨staffed.keys, staffed.line, staffed.absent, staffed.waits, ?_, staffed.within⟩,
      settled⟩
    intro other f ne stopped
    have held := staffed.stopped other f ne stopped
    by_cases here : other = client
    · exact here ▸ List.mem_cons_self
    · exact List.mem_cons_of_mem _ (List.mem_filter.2 ⟨held, by simpa using here⟩)
  | change | alter | shutdown =>
    exact ⟨⟨staffed.keys, staffed.line, staffed.absent, staffed.waits, staffed.stopped,
      staffed.within⟩, settled⟩

/-! ## Runs -/

theorem workers_land (f : Flight) : (s.land service client f).workers = s.workers := by
  obtain ⟨trace, state, answer, eq⟩ := exists_land s service client f
  rw [eq, finish_workers]

theorem workers_takeOff (ticket : Nat) :
    (s.takeOff service client ticket).workers = s.workers := by
  unfold Scheduler.takeOff
  dsimp only
  split
  · exact finish_workers ..
  · split
    · rfl
    · exact workers_land _

theorem workers_settle : (s.settle service).workers = s.workers := by
  have dispatched (fuel : Nat) (s : Scheduler σ) :
      (Scheduler.dispatch service fuel s).workers = s.workers := by
    induction fuel generalizing s with
    | zero => rfl
    | succ fuel ih =>
      rw [Scheduler.dispatch]
      split
      · rfl
      · split
        · dsimp only
          split
          · exact (ih _).trans (workers_takeOff _)
          · exact ih _
        · rfl
  exact dispatched _ s

theorem workers_after (e : Event σ) : (s.after service e).workers = s.workers := by
  have freed (s : Scheduler σ) (client : String) :
      (s.releaseOnce service client).workers = s.workers := by
    unfold Scheduler.releaseOnce
    split
    · exact workers_settle.trans (workers_land _)
    · rfl
  cases e with
  | submit client =>
    change (s.submit service client).2.workers = _
    cases queued : (s.cellOf client).queued with
    | some ticket => rw [submit_of_queued s service client queued]
    | none =>
      cases running : (s.cellOf client).running with
      | some r => rw [submit_of_running s service client queued running]
      | none =>
        rw [submit_of_idle s service client queued running, workers_settle,
          start_eq_finish _ _ (c := { s.cellOf client with removed := false }) queued,
          finish_workers]
  | discard client =>
    change (s.discard service client).2.workers = _
    unfold Scheduler.discard issue
    split
    · rfl
    · dsimp only
      split
      · rfl
      · split <;> rfl
  | release client => exact freed _ client
  | releaseOnce client => exact freed s client
  | _ => rfl

theorem workers_replay (events : List (Event σ)) :
    (s.replay service events).workers = s.workers := by
  induction events generalizing s with
  | nil => rfl
  | cons e events ih => exact ih.trans (workers_after e)

theorem resting_replay (service : Service σ) (workers : Nat) (limits : Limits) (state : σ)
    (events : List (Event σ)) : ((fresh workers limits state).replay service events).Resting := by
  induction events using List.reverseRecOn with
  | nil =>
    refine ⟨⟨List.nodup_nil, List.nodup_nil, (fun _ none => by cases none), ?_, ?_,
      Nat.zero_le _⟩, .inl rfl⟩
    · intro client _
      simp [replay, fresh, cellOf, Table.get?_nil, Cell.empty]
    · intro client f _ flight
      simp [replay, fresh, cellOf, Table.get?_nil, Cell.empty, Cell.flight?] at flight
  | append_singleton events e ih =>
    rw [replay_append]
    exact ih.after e

/-- Once all gates are open nothing runs. -/
theorem Resting.idle_of_no_gates (h : s.Resting) (some : 0 < s.workers) (opened : s.held = [])
    (client : String) : (s.cellOf client).running = none := by
  obtain ⟨staffed, settled⟩ := h
  have flight (client : String) : (s.cellOf client).flight? = none := by
    cases flight : (s.cellOf client).flight? with
    | none => rfl
    | some f =>
      have held := staffed.stopped client f (by simp) flight
      simp [opened] at held
  have idle : s.busy = 0 := by
    by_contra busy
    obtain ⟨client, f, flies⟩ :=
      exists_flight_of_busy staffed.keys (Nat.pos_of_ne_zero busy)
    simp [flight] at flies
  have line : s.line = [] := settled.resolve_right (by omega)
  cases running : (s.cellOf client).running with
  | none => rfl
  | some r =>
    cases r with
    | waiting ticket =>
      have mem := (staffed.waits client (by simp)).2 ⟨ticket, running⟩
      simp [line] at mem
    | flying f => exact absurd running (Cell.flight?_eq_none.1 (flight client) f)

end ContentBlocker.Scheduler
