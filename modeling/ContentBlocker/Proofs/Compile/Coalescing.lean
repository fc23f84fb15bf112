import ContentBlocker.Proofs.Compile.Snapshot
import ContentBlocker.Proofs.Store.Changes

/-!
# Requests that share a compilation

Requests of one client share compilations, but no change of rules is lost by it: `no_update_is_lost`
says that each request is answered for rules as they were at the request or later, and that the list
in use after the last request is one of the rules that the client has.  For the latter `View.Latest`
follows the last request through the queue and the workers.
-/

namespace ContentBlocker

variable {σ : Type}

/-- The lists of the service are those of the documents that it was given. -/
def Service.Faithful (service : Service σ) : Prop :=
  ∀ identifier document state a,
    (service.compile identifier document state).1 = .ok a → a.encoded = document

/-- The service that accepts every document. -/
def Service.lenient : Service Unit where
  compile identifier document _ := (.ok ⟨identifier, "", 0, document⟩, ())
  remove _ _ := (.ok (), ())

theorem Service.lenient_faithful : lenient.Faithful := by
  intro identifier document state a ok
  cases ok
  rfl

/-- A rule that blocks all loads. -/
def Rule.blockAll (id : Int) : Rule where
  id
  priority := none
  action := ⟨.block, none, none, none⟩
  condition := ⟨none, none, none, none, none, none, none, none, none, none, none, none, none, none,
    none, none⟩

namespace Scheduler

/-- A dynamic rule is added for a client. -/
def addRule (client : String) (id : Int) : Event σ :=
  .change (.updateTier client .dynamic [.blockAll id] [])

/-- The event changes the rules of a client, asks for its compilation or discards it. -/
def Event.Concerns (client : String) : Event σ → Prop
  | .change c => c.client = client
  | .submit other | .discard other => other = client
  | _ => False

variable {service : Service σ} {client who : String} {cause : Cause} {ticket : Nat}
  {rules : List Rule}

namespace View

variable {v w : View}

/-! ## The last request -/

/-- Where the last request of a client is, if the client has these rules since. -/
inductive Latest (service : Service σ) (client : String) (ticket : Nat) (rules : List Rule)
    (v : View) : Prop
  | queued (wanted : (v.cellOf client).removed = false)
    (queued : (v.cellOf client).queued = some ticket)
  | waiting (wanted : (v.cellOf client).removed = false) (queued : (v.cellOf client).queued = none)
    (running : (v.cellOf client).running = some (.waiting ticket))
  | flying (wanted : (v.cellOf client).removed = false) (queued : (v.cellOf client).queued = none)
    {f : Flight} (running : (v.cellOf client).running = some (.flying f)) (same : f.ticket = ticket)
    (epoch : f.epoch = (v.cellOf client).epoch) (taken : f.conversion = .ofRules rules)
  | ended (queued : (v.cellOf client).queued = none) (running : (v.cellOf client).running = none)
    (answered : ticket ∈ answered v.trace)
    (use : ∀ summary, .complete ticket (.ok summary) ∈ v.trace → summary.skipped = false →
      ∃ a, (v.cellOf client).slot.artifact = some a ∧
        service.Gives client (RuleList.Conversion.ofRules rules).document a)

/-- When its compilation ends, the client's queued request is next or refused. -/
theorem latest_next {notices : List Notice} {fresh : Nat} {c : Cell} (wanted : c.removed = false)
    (queued : c.queued = some ticket)
    (untold : ∀ summary, .complete ticket (.ok summary) ∉ notices ++ v.trace) :
    (v.turned client (Notice.refusal v.accepting (some ticket) ++ notices) fresh
      (c.next v.accepting)).Latest service client ticket rules := by
  cases accepting : v.accepting with
  | true =>
    have running : (c.next true).running = some (.waiting ticket) := by simp [Cell.next, queued]
    have used : (c.next true).isIdle = false := by simp [Cell.isIdle, running]
    refine .waiting ?_ ?_ ?_ <;> rw [cellOf_turned_self used]
    · exact wanted
    · rfl
    · exact running
  | false =>
    refine .ended ?_ ?_ ?_ ?_
    · rw [cellOf_turned, if_pos rfl, Cell.queued_kept, Cell.next]
    · rw [cellOf_turned, if_pos rfl, Cell.running_kept, Cell.next]
      rfl
    · exact mem_answered.2 ⟨_, List.mem_cons_self⟩
    · intro summary told
      rcases List.mem_cons.1 told with refused | old
      · cases refused
      · exact absurd old (untold summary)

/-- When its own compilation ends and none is queued, the last request has been answered. -/
theorem latest_ended {notices : List Notice} {fresh : Nat} {c : Cell} (queued : c.queued = none)
    (told : ticket ∈ answered notices)
    (use : ∀ summary, .complete ticket (.ok summary) ∈ notices ++ v.trace →
      summary.skipped = false →
      ∃ a, ((c.next v.accepting).kept.getD .empty).slot.artifact = some a ∧
        service.Gives client (RuleList.Conversion.ofRules rules).document a) :
    (v.turned client notices fresh (c.next v.accepting)).Latest service client ticket rules := by
  refine .ended ?_ ?_ ?_ ?_
  · rw [cellOf_turned, if_pos rfl, Cell.queued_kept, Cell.next]
  · rw [cellOf_turned, if_pos rfl, Cell.running_kept, Cell.next, queued]
    simp
  · simp only [turned, View.told, answered_append, List.mem_append]
    exact .inl told
  · rw [cellOf_turned, if_pos rfl]
    exact use

/-- A request is the last one of its client. -/
theorem Orderly.latest_request (h : v.Orderly) (step : Step service .request client v w) :
    w.Latest service client (v.ticketOf client) rules := by
  cases step with
  | mk turn =>
    cases turn with
    | share queued =>
      rw [ticketOf_of_queued queued]
      have used : { v.cellOf client with removed := false }.isIdle = false := by
        simp [Cell.isIdle, queued]
      refine .queued ?_ ?_ <;> rw [cellOf_turned_self used]
      exact queued
    | queue queued running =>
      rw [ticketOf_of_none queued]
      refine .queued ?_ ?_ <;> rw [cellOf_turned_self (by simp [Cell.isIdle])]
    | start queued running =>
      rw [ticketOf_of_none queued]
      have untold (summary : Summary) : .complete v.nextTicket (.ok summary) ∉ [] ++ v.trace := by
        intro told
        have := h.below client _ (List.mem_append_right _ (mem_answered.2 ⟨_, told⟩))
        exact Nat.lt_irrefl _ this
      rw [← List.append_nil (Notice.refusal _ _)]
      exact latest_next
        (c := { v.cellOf client with removed := false, queued := some v.nextTicket })
        rfl rfl untold

/-- A request that is held is not answered yet. -/
theorem Orderly.not_told (h : v.Orderly) (held : ticket ∈ (v.cellOf client).tickets)
    (outcome : Outcome) : .complete ticket outcome ∉ v.trace := fun told =>
  (List.nodup_append'.1 (h.nodup client)).2.2 held (mem_answered.2 ⟨_, told⟩)

/-- Nothing is told of a request when the compilation before it ends. -/
theorem Orderly.queued_not_told (h : v.Orderly) {r : Running}
    (running : (v.cellOf client).running = some r) (queued : (v.cellOf client).queued = some ticket)
    {notices : List Notice} (told : answered notices = [r.ticket]) (summary : Summary) :
    .complete ticket (.ok summary) ∉ notices ++ v.trace := by
  intro mem
  rcases List.mem_append.1 mem with new | old
  · have here : ticket ∈ answered notices := mem_answered.2 ⟨_, new⟩
    rw [told, List.mem_singleton] at here
    have nodup := (List.nodup_append'.1 (h.nodup client)).1
    simp [Cell.tickets, running, queued, here] at nodup
  · exact h.not_told (mem_tickets_of_queued queued) _ old

theorem Latest.skip (orderly : v.Orderly) {first : Nat}
    (running : (v.cellOf client).running = some (.waiting first))
    (h : v.Latest service client ticket rules) :
    (v.turned client
      (Notice.refusal v.accepting (v.cellOf client).queued ++
        [.complete first (.ok (.ofSkipped client))])
      v.nextTicket ((v.cellOf client).next v.accepting)).Latest service client ticket rules := by
  cases h with
  | queued wanted queued =>
    rw [queued]
    exact latest_next wanted queued (orderly.queued_not_told running queued rfl)
  | waiting wanted queued waiting =>
    cases running.symm.trans waiting
    rw [queued]
    refine latest_ended queued (mem_answered.2 ⟨_, List.mem_cons_self⟩) ?_
    intro summary told made
    rcases List.mem_cons.1 told with new | old
    · cases new
      cases made
    · exact absurd old (orderly.not_told (mem_tickets_of_waiting waiting) _)
  | flying _ _ flying => simp [running] at flying
  | ended _ idle => simp [running] at idle

theorem Latest.takeOff {first : Nat}
    (running : (v.cellOf client).running = some (.waiting first))
    (h : v.Latest service client ticket rules) :
    (v.turned client [] v.nextTicket
      ((v.cellOf client).takeOff ⟨first, (v.cellOf client).epoch, .ofRules rules⟩)).Latest
        service client ticket rules := by
  have used {f : Flight} : ((v.cellOf client).takeOff f).isIdle = false := by
    simp [Cell.isIdle, Cell.takeOff]
  cases h with
  | queued wanted queued =>
    refine .queued ?_ ?_ <;> rw [cellOf_turned_self used]
    · exact wanted
    · exact queued
  | waiting wanted queued waiting =>
    cases running.symm.trans waiting
    let f : Flight := ⟨ticket, (v.cellOf client).epoch, .ofRules rules⟩
    refine .flying (f := f) ?_ ?_ ?_ rfl ?_ rfl <;> rw [cellOf_turned_self used]
    · exact wanted
    · exact queued
    · rfl
    · rfl
  | flying _ _ flying => simp [running] at flying
  | ended _ idle => simp [running] at idle

theorem Latest.land (orderly : v.Orderly) {f : Flight} {answer : Except Report Artifact}
    {state : σ} (running : (v.cellOf client).running = some (.flying f))
    (answered : (service.compile (listIdentifier client) f.conversion.document state).1 = answer)
    (h : v.Latest service client ticket rules) :
    (v.turned client
      (Notice.refusal v.accepting (v.cellOf client).queued ++
        (Notice.removals client (v.cellOf client).removals ++
          [.complete f.ticket ((v.cellOf client).outcome client f answer),
            .compile client f.conversion.document answer.isOk]))
      v.nextTicket (((v.cellOf client).landed f answer).next v.accepting)).Latest
        service client ticket rules := by
  cases h with
  | queued wanted queued =>
    rw [queued]
    refine latest_next ?_ ?_ (orderly.queued_not_told running queued ?_)
    · rw [Cell.landed_eq]
      exact wanted
    · rw [Cell.landed_queued]
      exact queued
    · rw [answered_append, answered_removals]
      rfl
  | waiting _ _ waiting => simp [running] at waiting
  | flying wanted queued flying same epoch taken =>
    cases running.symm.trans flying
    subst same
    refine latest_ended ?_ ?_ ?_
    · rw [Cell.landed_queued, queued]
    · simp only [answered_append, List.mem_append]
      exact .inr (.inr (mem_answered.2 ⟨_, List.mem_cons_self⟩))
    · intro summary told made
      rcases List.mem_append.1 told with new | old
      · obtain ⟨-, outcome⟩ := Notice.told_of_land (by simp) new
        cases answer with
        | error r => cases outcome
        | ok a =>
          have used : (({ v.cellOf client with slot := .succeed a, removals := [] }).next
              v.accepting).isIdle = false := by
            simp [Cell.isIdle, Cell.next, Slot.isVacant, Slot.succeed, wanted]
          rw [Cell.landed_ok epoch, Cell.kept, used]
          exact ⟨a, rfl, state, taken ▸ answered⟩
      · exact absurd old (orderly.not_told (mem_tickets_of_flying running) _)
  | ended _ idle => simp [running] at idle

/-- Work brings the last request forward. -/
theorem Latest.work (orderly : v.Orderly) (step : Step service .work client v w)
    (h : v.Latest service client ticket (v.rulesOf client)) :
    w.Latest service client ticket (v.rulesOf client) := by
  cases step with
  | mk turn =>
    cases turn with
    | skip running => exact h.skip orderly running
    | takeOff running => exact h.takeOff running
    | land state running answered => exact h.land orderly running answered

/-- What happens to the other clients does not touch it. -/
theorem Latest.apart (orderly : v.Orderly) (step : Step service cause who v w) (ne : who ≠ client)
    (h : v.Latest service client ticket rules) : w.Latest service client ticket rules := by
  have after := step.orderly orderly
  cases step with
  | @mk notices fresh c turn =>
    have same : (v.turned who notices fresh c).cellOf client = v.cellOf client := by
      rw [cellOf_turned, if_neg ne.symm]
    cases h with
    | queued wanted queued => exact .queued (same ▸ wanted) (same ▸ queued)
    | waiting wanted queued running =>
      exact .waiting (same ▸ wanted) (same ▸ queued) (same ▸ running)
    | flying wanted queued running ticket epoch taken =>
      exact .flying (same ▸ wanted) (same ▸ queued) (same ▸ running) ticket (same ▸ epoch) taken
    | ended queued running told use =>
      have grown : answered (v.turned who notices fresh c).trace =
          answered notices ++ answered v.trace := answered_append ..
      refine .ended (same ▸ queued) (same ▸ running) ?_ ?_
      · rw [grown]
        exact List.mem_append_right _ told
      · intro summary here made
        rw [same]
        rcases List.mem_append.1 here with new | old
        · -- it would be answered twice
          have nodup := (List.nodup_append'.1 (after.nodup client)).2.1
          rw [grown] at nodup
          exact absurd told ((List.nodup_append'.1 nodup).2.2 (mem_answered.2 ⟨_, new⟩))
        · exact use summary old made

theorem Latest.surroundings (h : v.Latest service client ticket rules) (store : Store)
    (accepting : Bool) :
    View.Latest service client ticket rules { v with store, accepting } := by
  cases h with
  | queued wanted queued => exact .queued wanted queued
  | waiting wanted queued running => exact .waiting wanted queued running
  | flying wanted queued running same epoch taken =>
    exact .flying wanted queued running same epoch taken
  | ended queued running told use => exact .ended queued running told use

theorem Works.latest (works : Works service v w) (orderly : v.Orderly)
    (h : v.Latest service client ticket (v.rulesOf client)) :
    w.Orderly ∧ w.Latest service client ticket (w.rulesOf client) := by
  induction works with
  | refl => exact ⟨orderly, h⟩
  | tail _ last ih =>
    obtain ⟨who, step⟩ := last
    obtain ⟨orderly, h⟩ := ih
    rw [step.rulesOf]
    refine ⟨step.orderly orderly, ?_⟩
    by_cases here : who = client
    · subst here
      exact h.work orderly step
    · exact h.apart orderly step here

end View

/-! ## Runs -/

variable (s : Scheduler σ)

theorem latest_after (e : Event σ) (apart : ¬ e.Concerns client) (orderly : s.view.Orderly)
    (h : s.view.Latest service client ticket (s.view.rulesOf client)) :
    (s.after service e).view.Orderly ∧ (s.after service e).view.Latest service client ticket
      ((s.after service e).view.rulesOf client) := by
  obtain ⟨v, opens, works⟩ := opens_after s service e
  suffices v.Orderly ∧ v.Latest service client ticket (v.rulesOf client) from
    works.latest this.1 this.2
  cases opens with
  | change c =>
    have rules : View.rulesOf { s.view with store := s.view.store.after c } client =
        s.view.rulesOf client :=
      congrArg ClientRules.merged (Store.rulesOf_after_of_ne c apart)
    rw [rules]
    exact ⟨⟨orderly.nodup, orderly.apart, orderly.below⟩, h.surroundings _ s.view.accepting⟩
  | submit step | discard step =>
    rw [step.rulesOf]
    exact ⟨step.orderly orderly, h.apart orderly step apart⟩
  | shutdown =>
    exact ⟨⟨orderly.nodup, orderly.apart, orderly.below⟩, h.surroundings s.view.store false⟩
  | _ => exact ⟨orderly, h⟩

theorem latest_replay (orderly : s.view.Orderly)
    (h : s.view.Latest service client ticket (s.view.rulesOf client)) (events : List (Event σ))
    (apart : ∀ e ∈ events, ¬ e.Concerns client) :
    (s.replay service events).view.Latest service client ticket
      ((s.replay service events).view.rulesOf client) := by
  induction events generalizing s with
  | nil => exact h
  | cons e events ih =>
    obtain ⟨orderly, h⟩ := latest_after s e (apart e List.mem_cons_self) orderly h
    exact ih _ orderly h fun e' mem => apart e' (List.mem_cons_of_mem e mem)

/-! ## Answers -/

theorem submit_fst (service : Service σ) (client : String) :
    (s.submit service client).1 = s.view.ticketOf client := by
  cases queued : (s.cellOf client).queued with
  | some ticket =>
    rw [submit_of_queued s service client queued, View.ticketOf_of_queued (v := s.view) queued]
  | none =>
    rw [View.ticketOf_of_none (v := s.view) queued]
    cases running : (s.cellOf client).running with
    | some r => rw [submit_of_running s service client queued running]; rfl
    | none => rw [submit_of_idle s service client queued running]; rfl

theorem mem_trace_of_outcome? {outcome : Outcome} (h : s.outcome? ticket = some outcome) :
    .complete ticket outcome ∈ s.trace :=
  told_of_findSome? h

/-- A request that is answered with a list is answered for the rules that its client had after the
request and some of what followed, up to the event in which its compilation took off: they are what
the summary and the document at the service tell of.  If since the request the client's rules were
not changed, no compilation was asked for and nothing was discarded, then the list is in use, and it
is the one of the rules that the client has. -/
theorem no_update_is_lost (service : Service σ) (workers : Nat) (limits : Limits) (state : σ)
    (before later : List (Event σ)) (client : String) (summary : Summary) :
    let s := (fresh workers limits state).replay service before
    let ticket := (s.submit service client).1
    let run := fun events => s.replay service (.submit client :: events)
    (run later).outcome? ticket = some (.ok summary) → summary.skipped = false →
      ¬ s.view.HasTakenOff ticket ∧
      (∃ first rest, later = first ++ rest ∧
        (run first).view.HasTakenOff ticket ∧
        (∀ less, less <+: first → (run less).view.HasTakenOff ticket → less = first) ∧
        let conversion := RuleList.Conversion.ofRules ((run first).store.rulesOf client).merged
        summary.Reports service client conversion ∧
          [.complete ticket (.ok summary), .compile client conversion.document true] <:+:
            (run later).trace) ∧
      ((∀ e ∈ later, ¬ e.Concerns client) →
        let conversion := RuleList.Conversion.ofRules ((run later).store.rulesOf client).merged
        ∃ a, ((run later).slotOf client).artifact = some a ∧
          service.Gives client conversion.document a ∧
          (service.Faithful → a.encoded = conversion.document)) := by
  intro s ticket run outcome made
  have orderly : s.view.Orderly := orderly_replay service workers limits state before
  have told := mem_trace_of_outcome? _ outcome
  obtain ⟨v, step, works⟩ := step_submit s service client
  have ticket_eq : ticket = s.view.ticketOf client := submit_fst s service client
  refine ⟨ticket_eq ▸ orderly.not_hasTakenOff client, ?_, ?_⟩
  · have covers := works.covers (ticket_eq ▸ orderly.covers_request step)
    obtain ⟨first, rest, eq, taken, least, covers⟩ := exists_takeOff (s.submit service client).2
      (orderly_after service s orderly [.submit client]) covers later
      (mem_answered.2 ⟨_, told⟩)
    obtain ⟨reports, within⟩ := covers.told summary told made
    exact ⟨first, rest, eq, taken, least, reports, within⟩
  · intro apart
    have latest : v.Latest service client ticket (v.rulesOf client) :=
      ticket_eq ▸ orderly.latest_request step
    obtain ⟨orderly', latest⟩ := works.latest (step.orderly orderly) latest
    have latest := latest_replay _ orderly' latest later apart
    have last : (run later).view.Orderly :=
      orderly_after service s orderly (.submit client :: later)
    cases latest with
    | queued _ queued =>
      exact absurd told (last.not_told (View.mem_tickets_of_queued queued) _)
    | waiting _ _ running =>
      exact absurd told (last.not_told (View.mem_tickets_of_waiting running) _)
    | flying _ _ running same =>
      exact absurd told (last.not_told (same ▸ View.mem_tickets_of_flying running) _)
    | ended _ _ _ use =>
      obtain ⟨a, artifact, gives⟩ := use summary told made
      obtain ⟨state, ok⟩ := id gives
      exact ⟨a, artifact, gives, fun faithful => faithful _ _ state a ok⟩

/-- A rule that is added while a compilation is under way is in the list of the next request. -/
theorem second_request_sees_second_rule :
    let before := [addRule "a" 1, .hold "a", .submit "a", addRule "a" 2]
    let s := (fresh 1 .standard ()).replay .lenient before
    let last := s.replay .lenient [.submit "a", .release "a"]
    let rules := (last.store.rulesOf "a").merged
    rules.length = 2 ∧ ∃ a, (last.slotOf "a").artifact = some a ∧
      a.encoded = (RuleList.Conversion.ofRules rules).document := by
  intro before s last rules
  refine ⟨by decide +kernel, ?_⟩
  have answered : ∃ summary, last.outcome? (s.submit .lenient "a").1 = some (.ok summary) ∧
      summary.skipped = false := by
    have h : (last.outcome? (s.submit .lenient "a").1).any
        (fun o => o.toOption.any (!·.skipped)) := by decide +kernel
    obtain ⟨outcome, here, h⟩ := (Option.any_eq_true _ _).1 h
    cases outcome with
    | error failure => cases h
    | ok summary => exact ⟨summary, here, by simpa [Except.toOption] using h⟩
  obtain ⟨summary, here, made⟩ := answered
  obtain ⟨-, -, use⟩ :=
    no_update_is_lost .lenient 1 .standard () before [.release "a"] "a" summary here made
  obtain ⟨a, artifact, -, faithful⟩ := use (by simp [Event.Concerns])
  exact ⟨a, artifact, faithful Service.lenient_faithful⟩

end Scheduler

end ContentBlocker
