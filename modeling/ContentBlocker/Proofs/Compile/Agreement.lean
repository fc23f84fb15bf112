import ContentBlocker.Proofs.Compile.Coalescing
import ContentBlocker.Proofs.Compile.Discards
import Mathlib.Data.List.Induction

/-!
# Agreement with the service

When nothing of a client runs, the list in use is the one that the service has, with one exception.
A discard does not reach compilations that have yet to take the rules: without a request after it,
such a compilation leaves its list at the service, and the cell is dropped all the same.  `Stranded`
says that this is what happened last, and `agrees_iff_not_stranded` that it is the only exception.
-/

namespace ContentBlocker

variable {σ : Type}

theorem Agrees.encoded {service : Service σ} {client : String} {artifact : Option Artifact}
    {k : List (Option String)} (h : Agrees service client artifact k)
    (faithful : service.Faithful) : artifact.map (·.encoded) = standing k := by
  unfold Agrees at h
  split at h
  · rename_i none
    rw [h, none]
    rfl
  · rename_i document some
    obtain ⟨a, rfl, state, ok⟩ := h
    rw [some, Option.map_some, faithful _ _ state a ok]

namespace Scheduler

/-! ## Steps -/

namespace View

/-- What is kept while an event is under way: `lost` are the calls that were lost before it, and
`outlived` says that a compilation outlived the last discard. -/
structure Tracked (service : Service σ) (client : String) (lost : List (Option String) → Prop)
    (outlived : Prop) (v : View) : Prop where
  sound : v.Sound
  consistent : (v.cellOf client).Consistent service client
    (fun k => lost k ∨ outlived ∧ (v.cellOf client).running = none ∧ standing k ≠ none)
    (calls client v.trace)
  owes : (v.cellOf client).removed = true → (v.cellOf client).Owes → outlived

variable {service : Service σ} {client who : String} {cause : Cause} {v w : View}
  {lost : List (Option String) → Prop} {outlived : Prop}

theorem Step.tracked (step : Step service cause client v w) (sound : v.Sound)
    (h : (v.cellOf client).Consistent service client lost (calls client v.trace))
    (old : cause = .work → (v.cellOf client).removed = true → (v.cellOf client).Owes → outlived)
    (new : cause = .discard → (v.cellOf client).Pending → outlived) :
    w.Tracked service client lost outlived := by
  have sound' := step.sound sound
  cases step with
  | @mk notices fresh c turn =>
    have cell := turn.sound (sound.cellOf client)
    have consistent := turn.consistent (sound.cellOf client) h
    have owes (removed : c.removed = true) (owes : c.Owes) : outlived := by
      rcases turn.owes (sound.cellOf client) removed owes with
        ⟨work, removed, owes⟩ | ⟨discard, pending⟩
      · exact old work removed owes
      · exact new discard pending
    have trace : calls client (v.turned client notices fresh c).trace =
        calls client notices ++ calls client v.trace := calls_append ..
    cases idle : c.isIdle with
    | false =>
      have here : (v.turned client notices fresh c).cellOf client = c := cellOf_turned_self idle
      refine ⟨sound', ?_, here.symm ▸ owes⟩
      rw [trace, here]
      intro removals
      exact (consistent removals).imp_right fun ⟨absent, lost⟩ => ⟨absent, .inl lost⟩
    | true =>
      refine ⟨sound', ?_, ?_⟩ <;> rw [cellOf_turned_idle idle]
      · intro _
        rw [trace]
        rcases consistent.dropped cell idle with agrees | lost | ⟨removed, some, stands⟩
        · exact .inl agrees
        · exact .inr ⟨rfl, .inl lost⟩
        · exact .inr ⟨rfl, .inr ⟨owes removed some, rfl, stands⟩⟩
      · intro removed
        cases removed

theorem Tracked.apart (step : Step service cause who v w) (ne : who ≠ client)
    (h : v.Tracked service client lost outlived) : w.Tracked service client lost outlived := by
  refine ⟨step.sound h.sound, ?_, ?_⟩ <;> rw [step.cellOf_of_ne ne]
  · rw [step.calls_of_ne ne]
    exact h.consistent
  · exact h.owes

theorem Tracked.work (step : Step service .work who v w)
    (h : v.Tracked service client lost outlived) : w.Tracked service client lost outlived := by
  by_cases here : who = client
  · subst here
    have running : (v.cellOf who).running ≠ none := by
      intro idle
      cases step with
      | mk turn => cases turn <;> simp_all
    refine step.tracked h.sound ?_ (fun _ => h.owes) (fun discard => by cases discard)
    intro removals
    refine (h.consistent removals).imp_right fun ⟨absent, cause⟩ => ⟨absent, ?_⟩
    exact cause.resolve_right fun ⟨_, idle, _⟩ => running idle
  · exact h.apart step here

theorem Works.tracked (works : Works service v w) (h : v.Tracked service client lost outlived) :
    w.Tracked service client lost outlived :=
  works.preserves (fun step h => h.work step) h

end View

/-! ## Histories -/

section Histories

variable (service : Service σ) (start : Scheduler σ) (client : String)

/-- The calls for a client after events. -/
def callsAfter (events : List (Event σ)) : List (Option String) :=
  calls client (start.replay service events).trace

/-- The last discard of a client came while a compilation had yet to take the rules, and no request
came after it. -/
def Outlived (events : List (Event σ)) : Prop :=
  ∃ before rest, events = before ++ .discard client :: rest ∧ .submit client ∉ rest ∧
    ((start.replay service before).cellOf client).Pending

/-- At these calls a compilation that had outlived the last discard had left its list at the
service, and nothing of the client ran. -/
def Lost (events : List (Event σ)) (k : List (Option String)) : Prop :=
  ∃ first rest, events = first ++ rest ∧ Outlived service start client first ∧
    ((start.replay service first).cellOf client).running = none ∧ standing k ≠ none ∧
    k = callsAfter service start client first

/-- No call for the client has succeeded since a list was left at the service. -/
def Stranded (events : List (Event σ)) : Prop :=
  Lost service start client events (callsAfter service start client events)

/-- The list in use is the one that the service has. -/
def InAgreement (s : Scheduler σ) : Prop :=
  Agrees service client (s.slotOf client).artifact (calls client s.trace)

variable {service start client}

theorem Outlived.concat {events : List (Event σ)} (h : Outlived service start client events)
    {e : Event σ} (ne : e ≠ .submit client) : Outlived service start client (events ++ [e]) := by
  obtain ⟨before, rest, rfl, unasked, pending⟩ := h
  refine ⟨before, rest ++ [e], by simp, ?_, pending⟩
  simp [unasked, ne.symm]

theorem outlived_discard {events : List (Event σ)}
    (pending : ((start.replay service events).cellOf client).Pending) :
    Outlived service start client (events ++ [.discard client]) :=
  ⟨events, [], rfl, List.not_mem_nil, pending⟩

theorem Lost.concat {events : List (Event σ)} {k : List (Option String)}
    (h : Lost service start client events k) (e : Event σ) :
    Lost service start client (events ++ [e]) k := by
  obtain ⟨first, rest, rfl, lost⟩ := h
  exact ⟨first, rest ++ [e], by simp, lost⟩

end Histories

/-! ## Runs -/

section Runs

variable (service : Service σ) (workers : Nat) (limits : Limits) (state : σ) (client : String)

/-- Between events the list in use agrees with the calls, or it was lost. -/
theorem consistent_replay (events : List (Event σ)) :
    let start := fresh workers limits state
    let c := (start.replay service events).cellOf client
    c.Consistent service client (Lost service start client events)
        (callsAfter service start client events) ∧
      (c.removed = true → c.Owes → Outlived service start client events) := by
  intro start
  induction events using List.reverseRecOn with
  | nil => exact ⟨fun _ => .inl (agrees_none.2 rfl), fun removed => by cases removed⟩
  | append_singleton events e ih =>
    obtain ⟨consistent, owes⟩ := ih
    let s := start.replay service events
    have sound : s.view.Sound := sound_replay service workers limits state events
    have after : start.replay service (events ++ [e]) = s.after service e := replay_append ..
    have still (ne : e ≠ .submit client) : s.view.Tracked service client
        (Lost service start client events) (Outlived service start client (events ++ [e])) := by
      refine ⟨sound, ?_, fun removed some => (owes removed some).concat ne⟩
      exact fun removals =>
        (consistent removals).imp_right fun ⟨absent, lost⟩ => ⟨absent, .inl lost⟩
    obtain ⟨v, opens, works⟩ := opens_after s service e
    have opened : v.Tracked service client (Lost service start client events)
        (Outlived service start client (events ++ [e])) := by
      cases opens with
      | change | shutdown =>
        obtain ⟨sound, consistent, owes⟩ := still (by simp)
        exact ⟨sound, consistent, owes⟩
      | @submit who _ step =>
        by_cases here : who = client
        · subst here
          exact step.tracked sound consistent (fun work => by cases work)
            (fun discard => by cases discard)
        · exact (still (by simp [here])).apart step here
      | @discard who _ step =>
        by_cases here : who = client
        · subst here
          exact step.tracked sound consistent (fun work => by cases work)
            (fun _ pending => outlived_discard pending)
        · exact (still (by simp)).apart step here
      | _ => exact still (by simp)
    have last := works.tracked opened
    rw [after]
    refine ⟨?_, last.owes⟩
    intro removals
    rw [callsAfter, after]
    refine (last.consistent removals).imp_right fun ⟨absent, cause⟩ => ⟨absent, ?_⟩
    rcases cause with lost | ⟨outlived, idle, stands⟩
    · exact lost.concat e
    · exact ⟨events ++ [e], [], by simp, outlived, by rwa [after], stands,
        by rw [callsAfter, after]⟩

/-- Without a request a removed client is only kept as long as something of it runs. -/
theorem artifact_of_outlived (events : List (Event σ))
    (outlived : Outlived service (fresh workers limits state) client events)
    (idle : (((fresh workers limits state).replay service events).cellOf client).running = none) :
    (((fresh workers limits state).replay service events).slotOf client).artifact = none := by
  obtain ⟨before, rest, rfl, unasked, pending⟩ := outlived
  let start := fresh workers limits state
  let s := start.replay service before
  have present : ∃ c, s.cells.get? client = some c := by
    cases here : s.cells.get? client with
    | some c => exact ⟨c, rfl⟩
    | none =>
      have absent : s.cellOf client = .empty := by rw [cellOf, here]; rfl
      change (s.cellOf client).Pending at pending
      rw [absent] at pending
      rcases pending with queued | ⟨ticket, running⟩
      · exact absurd rfl queued
      · cases running
  obtain ⟨c, present⟩ := present
  have discarded : ((s.after service (.discard client)).view.cellOf client).Gone :=
    (step_discard s service client present).gone (by simp) (.inr rfl)
  let P (v : View) : Prop := (v.cellOf client).Gone
  have gone : P ((s.after service (.discard client)).replay service rest).view := by
    refine replay_preserves_of_named _ rest ?_ (fun _ _ h => h) discarded
    intro v w cause who request _ step h
    by_cases here : who = client
    · subst here
      exact step.gone (fun asked => unasked (request asked)) (.inl h)
    · change (w.cellOf client).Gone
      rw [step.cellOf_of_ne here]
      exact h
  have append : start.replay service (before ++ .discard client :: rest) =
      (s.after service (.discard client)).replay service rest := replay_append ..
  have sound := sound_replay service workers limits state (before ++ .discard client :: rest)
  change ((start.replay service _).cellOf client).running = none at idle
  change ((start.replay service _).cellOf client).slot.artifact = none
  rcases (append ▸ gone : P _) with removed | ⟨-, absent⟩
  · cases (sound.not_removed idle).symm.trans removed
  · exact absent

/-- What a client without a list has in use is nothing, until a call for it succeeds. -/
theorem artifact_of_no_calls (s : Scheduler σ) (events : List (Event σ))
    (absent : (s.slotOf client).artifact = none)
    (same : calls client (s.replay service events).trace = calls client s.trace) :
    ((s.replay service events).slotOf client).artifact = none := by
  let P (v : View) : Prop := (calls client s.trace).length ≤ (calls client v.trace).length ∧
    ((calls client v.trace).length = (calls client s.trace).length →
      (v.cellOf client).slot.artifact = none)
  have last : P (s.replay service events).view := by
    refine replay_preserves s ?_ (fun _ _ h => h) ⟨Nat.le_refl _, fun _ => absent⟩ events
    rintro v w cause who step ⟨le, h⟩
    obtain ⟨grown, artifact⟩ := step.artifact client
    exact ⟨Nat.le_trans le grown, fun same => artifact (by omega) (h (by omega))⟩
  exact last.2 (congrArg List.length same)

end Runs

/-! ## A list that is left behind -/

/-- No gate is closed, and nothing runs or waits. -/
def Quiet (s : Scheduler σ) : Prop :=
  s.held = [] ∧ ∀ p ∈ s.cells, p.2.running = none ∧ p.2.queued = none ∧ p.2.removals = []

instance (s : Scheduler σ) : Decidable s.Quiet := inferInstanceAs (Decidable (_ ∧ _))

/-- The client is discarded while one compilation is at the service and another is queued. -/
def discardBehindQueue : List (Event Unit) :=
  [addRule "e" 1, .hold "e", .submit "e", .submit "e", .discard "e", .release "e"]

end Scheduler

end ContentBlocker
