import ContentBlocker.Proofs.Compile.Tickets

/-!
# The rules of a compilation

A compilation takes the rules of its client when it starts, so a request is answered for rules as
they were at the request or later.  `View.Covers` says that all that is under way or told for a
ticket is about one conversion; until the ticket has taken off that conversion may still be any, and
`exists_takeOff` finds the event after which it is settled.
-/

namespace ContentBlocker

variable {σ : Type}

/-! ## What compilations report -/

/-- The service, in some state, accepts a document for a client as this list. -/
def Service.Gives (service : Service σ) (client document : String) (a : Artifact) : Prop :=
  ∃ state, (service.compile (listIdentifier client) document state).1 = .ok a

/-- The summary is the one of a conversion whose document the service accepted. -/
def Summary.Reports (summary : Summary) (service : Service σ) (client : String)
    (conversion : RuleList.Conversion) : Prop :=
  ∃ a, service.Gives client conversion.document a ∧
    summary = { Summary.ofConversion client conversion a with discarded := summary.discarded }

/-! ## Flights and answers of a turn -/

section Turns

variable {service : Service σ} {client : String} {cause : Cause} {accepting : Bool}
  {rules : List Rule} {fresh fresh' : Nat} {c c' : Cell} {notices : List Notice}

/-- A flight that a turn leaves was there before, or has just taken the rules. -/
theorem Turn.flight (turn : Turn service client accepting rules fresh c cause notices fresh' c')
    {f : Flight} (flying : c'.running = some (.flying f)) :
    c.running = some (.flying f) ∨
      cause = .work ∧ c.running = some (.waiting f.ticket) ∧ f.conversion = .ofRules rules := by
  have landed {c : Cell} (flying : (c.next accepting).running = some (.flying f)) : False :=
    Cell.flight?_eq_none.1 (Cell.flight?_next accepting) f flying
  cases turn with
  | share | queue | discardLater | discardNow => exact .inl flying
  | start | skip | land => exact (landed flying).elim
  | takeOff running =>
    cases flying
    exact .inr ⟨rfl, running, rfl⟩

theorem Notice.complete_ok_not_mem_refusal (accepting : Bool) (queued : Option Nat) (ticket : Nat)
    (summary : Summary) : .complete ticket (.ok summary) ∉ refusal accepting queued := by
  unfold refusal
  cases queued <;> cases accepting <;> simp

/-- The list that the end of a flight tells of is its outcome. -/
theorem Notice.told_of_land {queued : Option Nat} {rs : List Removal} {ticket landed : Nat}
    {outcome : Outcome} {n : Notice} {summary : Summary} (other : ∀ t o, n ≠ .complete t o)
    (told : .complete ticket (.ok summary) ∈
      refusal accepting queued ++ (removals client rs ++ [.complete landed outcome, n])) :
    ticket = landed ∧ outcome = .ok summary := by
  have unremoved : .complete ticket (.ok summary) ∉ removals client rs := by
    intro mem
    have := mem_answered.2 ⟨_, mem⟩
    simp [answered_removals] at this
  have own := (other ticket (.ok summary)).symm
  simp only [List.mem_append, complete_ok_not_mem_refusal, unremoved, List.mem_cons, own, false_or,
    complete.injEq, List.not_mem_nil, or_false] at told
  exact ⟨told.1, told.2.symm⟩

/-- A list that a turn tells of is what the service made of a flight. -/
theorem Turn.told (turn : Turn service client accepting rules fresh c cause notices fresh' c')
    {ticket : Nat} {summary : Summary} (told : .complete ticket (.ok summary) ∈ notices)
    (made : summary.skipped = false) :
    ∃ f, c.running = some (.flying f) ∧ f.ticket = ticket ∧
      summary.Reports service client f.conversion ∧
      [.complete ticket (.ok summary), .compile client f.conversion.document true] <:+:
        notices := by
  cases turn with
  | share | queue | takeOff | discardLater => cases told
  | start => exact (Notice.complete_ok_not_mem_refusal _ _ _ _ told).elim
  | discardNow =>
    unfold Notice.issue at told
    split at told <;> simp at told
  | skip running =>
    rcases List.mem_append.1 told with refused | skipped
    · exact (Notice.complete_ok_not_mem_refusal _ _ _ _ refused).elim
    · cases List.mem_singleton.1 skipped
      cases made
  | @land f answer state running answered =>
    obtain ⟨same, outcome⟩ := Notice.told_of_land (by simp) told
    cases answer with
    | error r => cases outcome
    | ok a =>
      have summary_eq := Except.ok.inj outcome
      refine ⟨f, running, same.symm, ⟨a, ⟨state, answered⟩, by rw [← summary_eq]⟩, ?_⟩
      rw [same, ← outcome]
      exact List.infix_append_of_infix_right List.infix_append_right

end Turns

namespace Scheduler

variable {service : Service σ} {client who : String} {cause : Cause} {ticket : Nat}
  {conversion : RuleList.Conversion}

namespace View

variable {v w : View}

theorem running_turned (notices : List Notice) (fresh : Nat) (c : Cell) (other : String) :
    ((v.turned client notices fresh c).cellOf other).running =
      if other = client then c.running else (v.cellOf other).running := by
  rw [cellOf_turned]
  split
  · exact Cell.running_kept
  · rfl

theorem mem_tickets_of_waiting (running : (v.cellOf client).running = some (.waiting ticket)) :
    ticket ∈ (v.cellOf client).tickets := by
  simp [Cell.tickets, running, Running.ticket]

theorem mem_tickets_of_flying {f : Flight}
    (running : (v.cellOf client).running = some (.flying f)) :
    f.ticket ∈ (v.cellOf client).tickets := by
  simp [Cell.tickets, running, Running.ticket]

theorem mem_tickets_of_queued (queued : (v.cellOf client).queued = some ticket) :
    ticket ∈ (v.cellOf client).tickets := by
  simp [Cell.tickets, queued]

/-! ## Taking off -/

/-- The compilation for a ticket has taken the rules, or has ended without. -/
def HasTakenOff (v : View) (ticket : Nat) : Prop :=
  (∃ client f, (v.cellOf client).running = some (.flying f) ∧ f.ticket = ticket) ∨
    ticket ∈ answered v.trace

theorem Step.hasTakenOff (step : Step service cause who v w) (h : v.HasTakenOff ticket) :
    w.HasTakenOff ticket := by
  cases step with
  | @mk notices fresh c turn =>
    rcases h with ⟨other, f, running, rfl⟩ | told
    · by_cases same : other = who
      · subst same
        have still (running : c.running = some (.flying f)) :
            (v.turned other notices fresh c).HasTakenOff f.ticket :=
          .inl ⟨other, f, by rw [running_turned, if_pos rfl, running], rfl⟩
        cases turn with
        | share | queue | discardLater | discardNow => exact still running
        | start queued idle => simp [idle] at running
        | skip waiting | takeOff waiting => simp [waiting] at running
        | land state flying =>
          cases flying.symm.trans running
          right
          simp only [turned, told, answered_append, List.mem_append]
          exact .inl (.inr (.inr (mem_answered.2 ⟨_, List.mem_cons_self⟩)))
      · exact .inl ⟨other, f, by rw [running_turned, if_neg same, running], rfl⟩
    · right
      simp only [turned, View.told, answered_append, List.mem_append]
      exact .inr told

/-- What has taken off does not wait. -/
theorem Orderly.not_waiting (h : v.Orderly) (gone : v.HasTakenOff ticket) :
    (v.cellOf client).running ≠ some (.waiting ticket) := by
  intro waiting
  have held := mem_tickets_of_waiting waiting
  rcases gone with ⟨other, f, running, rfl⟩ | told
  · by_cases same : other = client
    · subst same
      simp [running] at waiting
    · exact h.apart other client same (mem_tickets_of_flying running) held
  · exact (List.nodup_append'.1 (h.nodup client)).2.2 held told

/-! ## Covering -/

/-- All that is under way or told for a ticket of a client is about one conversion. -/
structure Covers (service : Service σ) (client : String) (ticket : Nat)
    (conversion : RuleList.Conversion) (v : View) : Prop where
  below : ticket < v.nextTicket
  held : ∀ other, ticket ∈ (v.cellOf other).tickets → other = client
  flight : ∀ f, (v.cellOf client).running = some (.flying f) → f.ticket = ticket →
    f.conversion = conversion
  told : ∀ summary, .complete ticket (.ok summary) ∈ v.trace → summary.skipped = false →
    summary.Reports service client conversion ∧
      [.complete ticket (.ok summary), .compile client conversion.document true] <:+: v.trace

/-- What has not taken off may still be about any conversion. -/
theorem covers_of_not_hasTakenOff (below : ticket < v.nextTicket)
    (held : ∀ other, ticket ∈ (v.cellOf other).tickets → other = client)
    (waits : ¬ v.HasTakenOff ticket) : v.Covers service client ticket conversion where
  below := below
  held := held
  flight f running same := absurd (.inl ⟨client, f, running, same⟩) waits
  told _ told _ := absurd (.inr (mem_answered.2 ⟨_, told⟩)) waits

theorem Step.covers (step : Step service cause who v w)
    (h : v.Covers service client ticket conversion)
    (current : (v.cellOf client).running = some (.waiting ticket) →
      .ofRules (v.rulesOf client) = conversion) :
    w.Covers service client ticket conversion := by
  cases step with
  | @mk notices fresh c turn =>
    obtain ⟨le, perm⟩ := turn.conserves
    constructor
    · exact Nat.lt_of_lt_of_le h.below le
    · intro other mem
      rw [tickets_turned] at mem
      split at mem
      · rename_i same
        subst same
        rcases List.mem_append.1 (perm.mem_iff.1 (List.mem_append_left _ mem)) with mem | new
        · exact h.held other mem
        · have := (List.mem_range'_1.1 new).1
          have := h.below
          omega
      · exact h.held other mem
    · intro f running same
      rw [running_turned] at running
      split at running
      · rename_i here
        subst here
        rcases turn.flight running with old | ⟨-, waiting, taken⟩
        · exact h.flight f old same
        · rw [taken, current (same ▸ waiting)]
      · exact h.flight f running same
    · intro summary told made
      rcases List.mem_append.1 told with new | old
      · obtain ⟨f, running, same, reports, within⟩ := turn.told new made
        obtain rfl := h.held who (same ▸ mem_tickets_of_flying running)
        rw [h.flight f running same] at reports within
        exact ⟨reports, List.infix_append_of_infix_left within⟩
      · obtain ⟨reports, within⟩ := h.told summary old made
        exact ⟨reports, List.infix_append_of_infix_right within⟩

/-! ## Requests -/

/-- The ticket that a request of a client gets. -/
def ticketOf (v : View) (client : String) : Nat := (v.cellOf client).queued.getD v.nextTicket

theorem ticketOf_of_queued (queued : (v.cellOf client).queued = some ticket) :
    v.ticketOf client = ticket := by
  rw [ticketOf, queued, Option.getD_some]

theorem ticketOf_of_none (queued : (v.cellOf client).queued = none) :
    v.ticketOf client = v.nextTicket := by
  rw [ticketOf, queued, Option.getD_none]

theorem Orderly.not_hasTakenOff (h : v.Orderly) (client : String) :
    ¬ v.HasTakenOff (v.ticketOf client) := by
  have below {other : String} {t : Nat} (mem : t ∈ (v.cellOf other).tickets) : t < v.nextTicket :=
    h.below other t (List.mem_append_left _ mem)
  unfold ticketOf
  cases queued : (v.cellOf client).queued with
  | none =>
    rintro (⟨other, f, running, same⟩ | told)
    · have := below (mem_tickets_of_flying running)
      simp [same] at this
    · have := h.below client _ (List.mem_append_right _ told)
      simp at this
  | some ticket =>
    have held := mem_tickets_of_queued queued
    obtain ⟨nodup, -, apart⟩ := List.nodup_append'.1 (h.nodup client)
    rintro (⟨other, f, running, same⟩ | told)
    · rw [Option.getD_some] at same
      by_cases here : other = client
      · subst here
        simp [Cell.tickets, running, queued, Running.ticket, same] at nodup
      · exact h.apart other client here (same ▸ mem_tickets_of_flying running) held
    · exact apart held told

/-- After a request nothing is under way or told for its ticket. -/
theorem Orderly.covers_request (h : v.Orderly) (step : Step service .request client v w) :
    w.Covers service client (v.ticketOf client) conversion := by
  have waits := h.not_hasTakenOff client
  have below {other : String} {t : Nat} (mem : t ∈ (v.cellOf other).tickets) : t < v.nextTicket :=
    h.below other t (List.mem_append_left _ mem)
  cases step with
  | @mk notices fresh c turn =>
    constructor
    · cases turn with
      | share queued =>
        rw [ticketOf_of_queued queued]
        exact below (mem_tickets_of_queued queued)
      | queue queued | start queued =>
        simp [turned, ticketOf, queued]
    · intro other mem
      by_contra ne
      rw [tickets_turned, if_neg ne] at mem
      cases queued : (v.cellOf client).queued with
      | none =>
        rw [ticketOf_of_none queued] at mem
        exact Nat.lt_irrefl _ (below mem)
      | some ticket =>
        rw [ticketOf_of_queued queued] at mem
        exact h.apart other client ne mem (mem_tickets_of_queued queued)
    · intro f running same
      rw [running_turned, if_pos rfl] at running
      rcases turn.flight running with old | ⟨work, -⟩
      · exact absurd (.inl ⟨client, f, old, same⟩) waits
      · cases work
    · intro summary told made
      rcases List.mem_append.1 told with new | old
      · obtain ⟨f, running, same, -⟩ := turn.told new made
        exact absurd (.inl ⟨client, f, running, same⟩) waits
      · exact absurd (.inr (mem_answered.2 ⟨_, old⟩)) waits

/-! ## Work -/

theorem Step.rulesOf (step : Step service cause who v w) (client : String) :
    w.rulesOf client = v.rulesOf client := by
  cases step
  rfl

/-- While the rules stay as they are, all that takes off is about them. -/
theorem Works.covers (works : Works service v w)
    (h : v.Covers service client ticket (.ofRules (v.rulesOf client))) :
    w.Covers service client ticket (.ofRules (w.rulesOf client)) := by
  induction works with
  | refl => exact h
  | tail _ last ih =>
    obtain ⟨who, step⟩ := last
    rw [step.rulesOf]
    exact step.covers ih fun _ => rfl

end View

/-! ## Runs -/

variable (s : Scheduler σ)

/-- What a ticket may be about before an event, it is about the rules after it. -/
theorem covers_after (e : Event σ)
    (h : ∀ conversion, s.view.Covers service client ticket conversion) :
    (s.after service e).view.Covers service client ticket
      (.ofRules ((s.after service e).view.rulesOf client)) := by
  obtain ⟨v, opens, works⟩ := opens_after s service e
  refine works.covers ?_
  cases opens with
  | change | shutdown =>
    obtain ⟨below, held, flight, told⟩ := h _
    exact ⟨below, held, flight, told⟩
  | submit step | discard step =>
    rw [step.rulesOf]
    exact step.covers (h _) fun _ => rfl
  | _ => exact h _

/-- Once a ticket has taken off, what it is about does not change. -/
theorem covers_replay (orderly : s.view.Orderly) (gone : s.view.HasTakenOff ticket)
    (h : s.view.Covers service client ticket conversion) (events : List (Event σ)) :
    (s.replay service events).view.Covers service client ticket conversion := by
  refine (replay_preserves (P := fun v => v.Orderly ∧ v.HasTakenOff ticket ∧
    v.Covers service client ticket conversion) s ?_ ?_ ⟨orderly, gone, h⟩ events).2.2
  · rintro v w cause who step ⟨orderly, gone, h⟩
    exact ⟨step.orderly orderly, step.hasTakenOff gone,
      step.covers h fun waiting => absurd waiting (orderly.not_waiting gone)⟩
  · rintro v store accepting ⟨orderly, gone, h⟩
    exact ⟨⟨orderly.nodup, orderly.apart, orderly.below⟩, gone,
      ⟨h.below, h.held, h.flight, h.told⟩⟩

/-- A ticket that is answered in the end took off after some first events, and was about the rules
as they were then. -/
theorem exists_takeOff (orderly : s.view.Orderly)
    (h : s.view.Covers service client ticket (.ofRules (s.view.rulesOf client)))
    (events : List (Event σ)) (told : ticket ∈ answered (s.replay service events).trace) :
    ∃ first rest, events = first ++ rest ∧
      (s.replay service first).view.HasTakenOff ticket ∧
      (∀ less, less <+: first → (s.replay service less).view.HasTakenOff ticket → less = first) ∧
      (s.replay service events).view.Covers service client ticket
        (.ofRules ((s.replay service first).view.rulesOf client)) := by
  induction events generalizing s with
  | nil => exact ⟨[], [], rfl, .inr told, fun less sub _ => List.prefix_nil.1 sub, h⟩
  | cons e events ih =>
    by_cases gone : s.view.HasTakenOff ticket
    · exact ⟨[], e :: events, rfl, gone, fun less sub _ => List.prefix_nil.1 sub,
        covers_replay s orderly gone h _⟩
    · have unsettled (conversion : RuleList.Conversion) :
          s.view.Covers service client ticket conversion :=
        View.covers_of_not_hasTakenOff h.below h.held gone
      obtain ⟨first, rest, rfl, taken, least, covers⟩ := ih (s.after service e)
        (orderly_after service s orderly [e]) (covers_after s e unsettled) told
      refine ⟨e :: first, rest, rfl, taken, ?_, covers⟩
      intro less sub early
      cases less with
      | nil => exact absurd early gone
      | cons e' less =>
        obtain ⟨rfl, shorter⟩ := List.cons_prefix_cons.1 sub
        rw [least less shorter early]

end Scheduler

end ContentBlocker
