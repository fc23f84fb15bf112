import ContentBlocker.Proofs.Compile.Coalescing
import ContentBlocker.Proofs.Compile.Slots
import ContentBlocker.Proofs.Compile.Workers

/-!
# Answers to requests

The ticket of a request is always at one place: with the compilation that runs, with the one queued
behind it, or among the answers.  An answer stays as it is, and once all gates are open every ticket
has one; `one_place_for_every_ticket` says both of every run.
-/

namespace ContentBlocker

variable {σ : Type}

/-! ## Tickets are not lost -/

section Turns

variable {service : Service σ} {client : String} {cause : Cause} {accepting : Bool}
  {rules : List Rule} {fresh fresh' ticket : Nat} {c c' : Cell} {notices : List Notice}

/-- A ticket that is open before a turn is open or answered after it. -/
theorem Turn.keeps (turn : Turn service client accepting rules fresh c cause notices fresh' c')
    (held : ticket ∈ c.tickets) : ticket ∈ c'.tickets ++ answered notices :=
  turn.conserves.2.mem_iff.2 (List.mem_append_left _ held)

/-- When the workers take no new work, a queued ticket stays queued or is refused. -/
theorem Turn.refuses (turn : Turn service client false rules fresh c cause notices fresh' c')
    (queued : c.queued = some ticket) :
    c'.queued = some ticket ∨ .complete ticket (.error (.defect .poolClosed)) ∈ notices := by
  have refusal : Notice.refusal false c.queued =
      [.complete ticket (.error (.defect .poolClosed))] := by
    rw [queued]
    rfl
  cases turn with
  | share | takeOff | discardLater | discardNow => exact .inl queued
  | queue none | start none => simp [queued] at none
  | skip | land =>
    rw [refusal]
    exact .inr (List.mem_append_left _ List.mem_cons_self)

end Turns

namespace Scheduler

variable {service : Service σ} {client : String} {cause : Cause} {ticket : Nat}

namespace View

variable {v w : View}

/-- The ticket of a client is open or answered. -/
def Handed (client : String) (ticket : Nat) (v : View) : Prop :=
  ticket ∈ (v.cellOf client).tickets ++ answered v.trace

theorem Step.handed {who : String} (step : Step service cause who v w)
    (h : v.Handed client ticket) : w.Handed client ticket := by
  cases step with
  | @mk notices fresh c turn =>
    have trace : (v.turned who notices fresh c).trace = notices ++ v.trace := rfl
    unfold Handed at h ⊢
    rw [tickets_turned, trace, answered_append, ← List.append_assoc]
    rcases List.mem_append.1 h with held | told
    · refine List.mem_append_left _ ?_
      split
      · rename_i here
        subst here
        exact turn.keeps held
      · exact List.mem_append_left _ held
    · exact List.mem_append_right _ told

/-- A request leaves its ticket open or answered. -/
theorem Step.handed_request (step : Step service .request client v w) :
    w.Handed client (v.ticketOf client) := by
  cases step with
  | @mk notices fresh c turn =>
    have trace : (v.turned client notices fresh c).trace = notices ++ v.trace := rfl
    unfold Handed
    rw [tickets_turned, if_pos rfl, trace, answered_append, ← List.append_assoc]
    refine List.mem_append_left _ ?_
    cases queued : (v.cellOf client).queued with
    | some ticket =>
      rw [ticketOf_of_queued queued]
      exact turn.keeps (mem_tickets_of_queued queued)
    | none =>
      rw [ticketOf_of_none queued]
      refine turn.conserves.2.mem_iff.2 (List.mem_append_right _ ?_)
      have fresh : fresh = v.nextTicket + 1 := by
        cases turn with
        | share some => simp [queued] at some
        | queue | start => rfl
      simp [fresh]

/-- Since the pool was closed the client's ticket is queued, or was refused. -/
def Refusing (client : String) (ticket : Nat) (v : View) : Prop :=
  v.accepting = false ∧ ((v.cellOf client).queued = some ticket ∨
    .complete ticket (.error (.defect .poolClosed)) ∈ v.trace)

theorem Step.refusing {who : String} (step : Step service cause who v w)
    (h : v.Refusing client ticket) : w.Refusing client ticket := by
  obtain ⟨closed, queued | refused⟩ := h
  · cases step with
    | @mk notices fresh c turn =>
      refine ⟨closed, ?_⟩
      rw [closed] at turn
      rw [cellOf_turned]
      split
      · rename_i here
        subst here
        rw [Cell.queued_kept]
        exact (turn.refuses queued).imp_right (List.mem_append_left _)
      · exact .inl queued
  · cases step
    exact ⟨closed, .inr (List.mem_append_right _ refused)⟩

end View

variable (s : Scheduler σ)

/-! ## Answers stay -/

/-- In an orderly trace a ticket has the one answer that is told of it. -/
theorem outcome?_eq_some (orderly : s.view.Orderly) {outcome : Outcome} :
    s.outcome? ticket = some outcome ↔ .complete ticket outcome ∈ s.trace := by
  have once : (answered s.trace).Nodup := (List.nodup_append'.1 (orderly.nodup "")).2.1
  exact ⟨mem_trace_of_outcome? s, findSome?_of_told once⟩

theorem mem_answered_iff (orderly : s.view.Orderly) :
    ticket ∈ answered s.trace ↔ (s.outcome? ticket).isSome := by
  rw [mem_answered, Option.isSome_iff_exists]
  exact exists_congr fun outcome => (outcome?_eq_some s orderly).symm

theorem View.Step.mem_trace {v w : View} {n : Notice} (step : Step service cause client v w)
    (told : n ∈ v.trace) : n ∈ w.trace := by
  cases step
  exact List.mem_append_right _ told

/-- What has been told stays in the trace. -/
theorem mem_trace_replay (service : Service σ) (events : List (Event σ)) {n : Notice}
    (told : n ∈ s.trace) : n ∈ (s.replay service events).trace :=
  replay_preserves (P := fun v => n ∈ v.trace) s View.Step.mem_trace (fun _ _ h => h) told events

/-! ## Places -/

/-- Where a ticket can be. -/
inductive Place where
  | running
  | queued
  | answered
deriving DecidableEq, Repr

/-- The ticket of a client is at a place. -/
def IsAt (client : String) (ticket : Nat) : Place → Prop
  | .running => (s.cellOf client).running.map Running.ticket = some ticket
  | .queued => (s.cellOf client).queued = some ticket
  | .answered => ∃ outcome, s.outcome? ticket = some outcome

theorem mem_tickets (c : Cell) :
    ticket ∈ c.tickets ↔ c.running.map Running.ticket = some ticket ∨ c.queued = some ticket := by
  simp [Cell.tickets]

/-- Of an orderly scheduler a ticket that was handed out is at one place. -/
theorem exists_unique_place (orderly : s.view.Orderly) (handed : s.view.Handed client ticket) :
    ∃! place, s.IsAt client ticket place := by
  obtain ⟨held, -, apart⟩ := List.nodup_append'.1 (orderly.nodup client)
  have told : s.IsAt client ticket .answered ↔ ticket ∈ answered s.trace := by
    rw [mem_answered_iff s orderly, Option.isSome_iff_exists]
    rfl
  have open_ : ticket ∈ (s.view.cellOf client).tickets ↔
      s.IsAt client ticket .running ∨ s.IsAt client ticket .queued := mem_tickets _
  have once : ¬ (s.IsAt client ticket .running ∧ s.IsAt client ticket .queued) := by
    rintro ⟨running, queued⟩
    have running : (s.view.cellOf client).running.map Running.ticket = some ticket := running
    have queued : (s.view.cellOf client).queued = some ticket := queued
    simp [Cell.tickets, running, queued] at held
  have unanswered (open_ : ticket ∈ (s.view.cellOf client).tickets) :
      ¬ s.IsAt client ticket .answered := fun done => apart open_ (told.1 done)
  rcases List.mem_append.1 handed with here | done
  · have unanswered := unanswered here
    rcases open_.1 here with running | queued
    · refine ⟨.running, running, fun place at_ => ?_⟩
      cases place with
      | running => rfl
      | queued => exact absurd ⟨running, at_⟩ once
      | answered => exact absurd at_ unanswered
    · refine ⟨.queued, queued, fun place at_ => ?_⟩
      cases place with
      | running => exact absurd ⟨at_, queued⟩ once
      | queued => rfl
      | answered => exact absurd at_ unanswered
  · refine ⟨.answered, told.2 done, fun place at_ => ?_⟩
    cases place with
    | running => exact absurd (told.2 done) (unanswered (open_.2 (.inl at_)))
    | queued => exact absurd (told.2 done) (unanswered (open_.2 (.inr at_)))
    | answered => rfl

/-! ## Runs -/

/-- A request hands its ticket out, and from then on the ticket is open or answered. -/
theorem handed_replay (service : Service σ) (client : String) (events : List (Event σ)) :
    (s.replay service (.submit client :: events)).view.Handed client
      (s.submit service client).1 := by
  rw [submit_fst]
  obtain ⟨v, step, works⟩ := step_submit s service client
  have first : (s.after service (.submit client)).view.Handed client (s.view.ticketOf client) :=
    works.preserves View.Step.handed step.handed_request
  exact replay_preserves _ View.Step.handed (fun _ _ h => h) first events

/-- When the pool is closed a queued ticket stays queued or is refused. -/
theorem refusing_replay {s : Scheduler σ} (service : Service σ) {client : String}
    (h : s.view.Refusing client ticket) (events : List (Event σ)) :
    (s.replay service events).view.Refusing client ticket := by
  refine replay_preserves_of_opens s events ?_ View.Step.refusing h
  intro v w e _ opens h
  cases opens with
  | submit step | discard step => exact step.refusing h
  | shutdown => exact ⟨rfl, h.2⟩
  | _ => exact h

/-- The ticket of a request is at one place after any further events, and is no other client's.  It
is answered once, and the answer stays; it is there as soon as all gates are open.  A ticket that
is queued when the pool is closed is refused when its turn comes. -/
theorem one_place_for_every_ticket (service : Service σ) (workers : Nat) (limits : Limits)
    (state : σ) (before later : List (Event σ)) (client : String) :
    let s := (fresh workers limits state).replay service before
    let ticket := (s.submit service client).1
    let run := fun events => s.replay service (.submit client :: events)
    (∃! place, (run later).IsAt client ticket place) ∧
      (∀ other, other ≠ client → ticket ∉ ((run later).cellOf other).tickets) ∧
      (answered (run later).trace).count ticket ≤ 1 ∧
      (∀ more outcome, (run later).outcome? ticket = some outcome →
        (run (later ++ more)).outcome? ticket = some outcome) ∧
      (0 < workers → (run later).held = [] →
        ∃ outcome, (run later).outcome? ticket = some outcome) ∧
      ((run later).IsAt client ticket .queued → (run later).accepting = false →
        ∀ more, (run (later ++ more)).IsAt client ticket .queued ∨
          (run (later ++ more)).outcome? ticket = some (.error (.defect .poolClosed))) := by
  intro s ticket run
  have replayed (events : List (Event σ)) : run events =
      (fresh workers limits state).replay service (before ++ .submit client :: events) :=
    (replay_append _ before _).symm
  have orderly (events : List (Event σ)) : (run events).view.Orderly := by
    rw [replayed]
    exact orderly_replay service workers limits state _
  have handed : (run later).view.Handed client ticket := handed_replay s service client later
  have unique := exists_unique_place (run later) (orderly later) handed
  refine ⟨unique, ?_, ?_, ?_, ?_, ?_⟩
  · intro other ne held
    rcases List.mem_append.1 handed with own | told
    · exact (orderly later).apart other client ne held own
    · exact (List.nodup_append'.1 ((orderly later).nodup other)).2.2 held told
  · exact List.nodup_iff_count_le_one.1
      (List.nodup_append'.1 ((orderly later).nodup client)).2.1 ticket
  · intro more outcome told
    have append : run (later ++ more) = (run later).replay service more :=
      replay_append s (.submit client :: later) more
    rw [outcome?_eq_some _ (orderly _)] at told ⊢
    rw [append]
    exact mem_trace_replay _ service more told
  · intro some opened
    have resting : (run later).Resting := by
      rw [replayed]
      exact resting_replay service workers limits state _
    have staff : (run later).workers = workers := by
      rw [replayed, workers_replay]
      rfl
    have sound : (run later).view.Sound := by
      rw [replayed]
      exact sound_replay service workers limits state _
    have idle := resting.idle_of_no_gates (staff ▸ some) opened client
    have tickets : ((run later).view.cellOf client).tickets = [] := by
      have queued := (sound.cellOf client).queued idle
      rw [Cell.tickets, queued, show ((run later).view.cellOf client).running = none from idle]
      rfl
    rw [← Option.isSome_iff_exists, ← mem_answered_iff _ (orderly later)]
    have handed : ticket ∈ _ ++ _ := handed
    rwa [tickets, List.nil_append] at handed
  · intro queued closed more
    have append : run (later ++ more) = (run later).replay service more :=
      replay_append s (.submit client :: later) more
    rw [outcome?_eq_some _ (orderly _), append]
    exact (refusing_replay service ⟨closed, .inl queued⟩ more).2

/-- The queued request of a discarded client is refused when its turn comes after a shutdown. -/
theorem refused_after_shutdown :
    let s := (fresh 1 .standard ()).replay .lenient [addRule "e" 1, .hold "e", .submit "e"]
    let ticket := (s.submit .lenient "e").1
    let last := s.replay .lenient [.submit "e", .shutdown, .discard "e", .release "e"]
    0 < 1 ∧ last.held = [] ∧ last.outcome? ticket = some (.error (.defect .poolClosed)) := by
  intro s ticket last
  have opened : last.held = [] := by decide +kernel
  have queued : (s.replay .lenient [.submit "e", .shutdown]).IsAt "e" ticket .queued := by
    change ((s.replay .lenient [.submit "e", .shutdown]).cellOf "e").queued = some ticket
    decide +kernel
  have closed : (s.replay .lenient [.submit "e", .shutdown]).accepting = false := by
    decide +kernel
  let before : List (Event Unit) := [addRule "e" 1, .hold "e", .submit "e"]
  obtain ⟨-, -, -, -, -, refused⟩ :=
    one_place_for_every_ticket .lenient 1 .standard () before [.shutdown] "e"
  obtain ⟨⟨place, -, only⟩, -, -, -, answered, -⟩ := one_place_for_every_ticket .lenient 1 .standard
    () before [.shutdown, .discard "e", .release "e"] "e"
  have answered : last.IsAt "e" ticket .answered := answered (by decide) opened
  refine ⟨by decide, opened, ?_⟩
  rcases refused queued closed [.discard "e", .release "e"] with still | refused
  · exact absurd ((only _ still).trans (only _ answered).symm) (by decide)
  · exact refused

end Scheduler

end ContentBlocker
