import ContentBlocker.Proofs.Compile.Calls

/-!
# Discards

A discard drops what was found out for a client, but does not reach a compilation that has yet to
take the rules: it still gets a list, which is `Owes`d to the client until the cell is dropped.  A
client that was removed only comes back with a request, as `Turn.removed` says.
-/

namespace ContentBlocker

variable {σ : Type}

/-! ## Cells -/

namespace Cell

/-- A compilation of the client has yet to take the rules. -/
def Pending (c : Cell) : Prop := c.queued ≠ none ∨ ∃ ticket, c.running = some (.waiting ticket)

/-- The client has a list that was compiled since the last discard, or may still get one. -/
def Owes (c : Cell) : Prop :=
  c.Pending ∨ (∃ f, c.running = some (.flying f) ∧ f.epoch = c.epoch) ∨ c.slot.artifact ≠ none

variable {c : Cell}

theorem pending_of_next {accepting : Bool} (h : (c.next accepting).Pending) : c.queued ≠ none := by
  rcases h with queued | ⟨ticket, running⟩
  · exact absurd rfl queued
  · unfold next at running
    cases queued : c.queued <;> cases accepting <;> simp [queued] at running ⊢

theorem owes_of_next {accepting : Bool} (h : (c.next accepting).Owes) :
    c.queued ≠ none ∨ c.slot.artifact ≠ none := by
  rcases h with pending | ⟨f, running, -⟩ | artifact
  · exact .inl (pending_of_next pending)
  · exact absurd running (flight?_eq_none.1 (flight?_next accepting) f)
  · exact .inr artifact

/-- Right after a discard, only what has yet to take the rules can give the client a list. -/
theorem pending_of_discarded (sound : c.Sound) (removals : List Removal)
    (h : Owes { c.discarded with removals }) : c.Pending := by
  rcases h with pending | ⟨f, running, epoch⟩ | artifact
  · exact pending
  · simp only [discarded] at running epoch
    rcases sound.aloft f running with ⟨current, -⟩ | ⟨older, -⟩ <;> omega
  · exact absurd rfl artifact

/-- Nothing is kept of the client but what runs for it. -/
def Gone (c : Cell) : Prop :=
  c.removed = true ∨ c.running = none ∧ c.slot.artifact = none

theorem gone_kept (removed : c.removed = true) : (c.kept.getD .empty).Gone := by
  unfold kept
  split
  · exact .inr ⟨rfl, rfl⟩
  · exact .inl removed

theorem artifact_kept (absent : c.slot.artifact = none) :
    (c.kept.getD .empty).slot.artifact = none := by
  unfold kept
  split
  · rfl
  · exact absent

end Cell

/-! ## Turns -/

section Turns

variable {service : Service σ} {client : String} {cause : Cause} {accepting : Bool}
  {rules : List Rule} {fresh fresh' : Nat} {c c' : Cell} {notices : List Notice}

/-- A removed client that may get a list was one before, or was just discarded with a compilation
that had yet to take the rules. -/
theorem Turn.owes (turn : Turn service client accepting rules fresh c cause notices fresh' c')
    (sound : c.Sound) (removed : c'.removed = true) (owes : c'.Owes) :
    cause = .work ∧ c.removed = true ∧ c.Owes ∨ cause = .discard ∧ c.Pending := by
  cases turn with
  | share | queue | start => cases removed
  | skip running =>
    refine .inl ⟨rfl, removed, ?_⟩
    rcases Cell.owes_of_next owes with queued | artifact
    · exact .inl (.inl queued)
    · exact .inr (.inr artifact)
  | takeOff running => exact .inl ⟨rfl, removed, .inl (.inr ⟨_, running⟩)⟩
  | @land f answer state running answered =>
    have same : (c.landed f answer).removed = c.removed := by rw [Cell.landed_eq]
    refine .inl ⟨rfl, same ▸ removed, ?_⟩
    rcases sound.aloft f running with ⟨epoch, -⟩ | ⟨epoch, slot, -⟩
    · exact .inr (.inl ⟨f, running, epoch⟩)
    · rw [Cell.landed_outdated answer (Nat.ne_of_lt epoch)] at owes
      rcases Cell.owes_of_next owes with queued | artifact
      · exact .inl (.inl queued)
      · exact .inr (.inr artifact)
  | discardLater => exact .inr ⟨rfl, Cell.pending_of_discarded sound _ owes⟩
  | discardNow => exact .inr ⟨rfl, Cell.pending_of_discarded sound _ owes⟩

/-- A cell that agrees is dropped in agreement, unless it was removed and got a list since. -/
theorem Cell.Consistent.dropped {lost : List (Option String) → Prop} {k : List (Option String)}
    (h : c.Consistent service client lost k) (sound : c.Sound) (idle : c.isIdle = true) :
    Agrees service client none k ∨ lost k ∨ c.removed = true ∧ c.Owes ∧ standing k ≠ none := by
  unfold isIdle at idle
  simp only [Bool.and_eq_true, Option.isNone_iff_eq_none, Bool.or_eq_true] at idle
  obtain ⟨⟨running, -⟩, unused⟩ := idle
  have removals : c.removals = [] := (sound.grounded (flight?_eq_none.2 (by simp [running]))).2
  rw [agrees_none]
  rcases h removals with agrees | ⟨-, lost⟩
  · by_cases nothing : standing k = none
    · exact .inl nothing
    · have artifact : c.slot.artifact ≠ none := by
        intro none
        rw [none, agrees_none] at agrees
        exact nothing agrees
      rcases unused with removed | vacant
      · exact .inr (.inr ⟨removed, .inr (.inr artifact), nothing⟩)
      · simp [Slot.isVacant, artifact] at vacant
  · exact .inr (.inl lost)

/-- Only a request takes a removal back. -/
theorem Turn.removed (turn : Turn service client accepting rules fresh c cause notices fresh' c')
    (unasked : cause ≠ .request) (h : c.Gone ∨ cause = .discard) : c'.removed = true := by
  have running {r : Running} (running : c.running = some r) (discard : cause ≠ .discard) :
      c.removed = true := by
    rcases h with (removed | ⟨idle, -⟩) | h
    · exact removed
    · simp [running] at idle
    · exact absurd h discard
  cases turn with
  | share | queue | start => exact absurd rfl unasked
  | skip waits | takeOff waits => exact running waits (by simp)
  | @land f answer _ flies =>
    have same : (c.landed f answer).removed = c.removed := by rw [Cell.landed_eq]
    exact same.trans (running flies (by simp))
  | discardLater | discardNow => rfl

/-- Without a call that succeeds no list gets into use. -/
theorem Turn.artifact_of_no_calls
    (turn : Turn service client accepting rules fresh c cause notices fresh' c')
    (uncalled : calls client notices = []) (absent : c.slot.artifact = none) :
    c'.slot.artifact = none := by
  cases turn with
  | share | queue | start | skip | takeOff => exact absent
  | @land f answer =>
    rw [calls_append, calls_append, calls_land] at uncalled
    by_cases epoch : f.epoch = c.epoch
    · cases answer with
      | ok a => simp [Except.isOk, Except.toBool] at uncalled
      | error r =>
        rw [Cell.landed_error epoch]
        exact absent
    · rw [Cell.landed_outdated answer epoch]
      exact absent
  | discardLater | discardNow => rfl

end Turns

/-! ## Steps -/

namespace Scheduler.View

variable {service : Service σ} {client who : String} {cause : Cause} {v w : View}

theorem Step.cellOf_of_ne (step : Step service cause who v w) (ne : who ≠ client) :
    w.cellOf client = v.cellOf client := by
  cases step
  rw [cellOf_turned, if_neg ne.symm]

/-- A step of one client makes no calls for another. -/
theorem Step.calls_of_ne (step : Step service cause who v w) (ne : who ≠ client) :
    calls client w.trace = calls client v.trace := by
  cases step with
  | mk turn =>
    refine (calls_append ..).trans ?_
    rw [turn.calls_of_ne ne, List.nil_append]

theorem Step.gone (step : Step service cause client v w) (unasked : cause ≠ .request)
    (h : (v.cellOf client).Gone ∨ cause = .discard) : (w.cellOf client).Gone := by
  cases step with
  | mk turn =>
    rw [cellOf_turned, if_pos rfl]
    exact Cell.gone_kept (turn.removed unasked h)

/-- What a client without a list has in use is nothing, until a call for it succeeds. -/
theorem Step.artifact (step : Step service cause who v w) (client : String) :
    (calls client v.trace).length ≤ (calls client w.trace).length ∧
      ((calls client w.trace).length = (calls client v.trace).length →
        (v.cellOf client).slot.artifact = none → (w.cellOf client).slot.artifact = none) := by
  by_cases here : who = client
  · subst here
    cases step with
    | @mk notices fresh c turn =>
      have grown : calls who (v.turned who notices fresh c).trace =
          calls who notices ++ calls who v.trace := calls_append ..
      rw [grown, List.length_append]
      refine ⟨Nat.le_add_left _ _, fun same absent => ?_⟩
      rw [cellOf_turned, if_pos rfl]
      refine Cell.artifact_kept (turn.artifact_of_no_calls (List.length_eq_zero_iff.1 ?_) absent)
      omega
  · rw [step.calls_of_ne here, step.cellOf_of_ne here]
    exact ⟨Nat.le_refl _, fun _ absent => absent⟩

end Scheduler.View

end ContentBlocker
