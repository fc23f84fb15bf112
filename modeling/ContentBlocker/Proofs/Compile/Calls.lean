import ContentBlocker.Proofs.Compile.Slots
import ContentBlocker.Proofs.Compile.Snapshot

/-!
# Calls to the service

The calls for a client stand in the trace in order.  Those that succeeded decide what the service
has for the client: after an accepted compilation its list, after a removal none.
`Turn.consistent` says that a turn keeps the list in use in agreement with them, as long as the cell
is kept.
-/

namespace ContentBlocker

variable {σ : Type}

namespace Notice

/-- The notice tells of a call for the client. -/
def IsCallFor (client : String) : Notice → Bool
  | .compile c _ _ | .remove c => c = client
  | _ => false

/-- What the call that the notice tells of made the service have: a document or nothing. -/
def effect? : Notice → Option (Option String)
  | .compile _ document accepted => if accepted then some (some document) else none
  | .remove _ => some none
  | _ => none

end Notice

/-- The calls for a client, whether they succeeded or not, latest first. -/
def callLog (client : String) (trace : List Notice) : List Notice :=
  trace.filter (Notice.IsCallFor client)

/-- The calls for a client that changed what the service has, latest first: documents that were
accepted, and removals. -/
def calls (client : String) (trace : List Notice) : List (Option String) :=
  trace.filterMap fun
    | .compile c document accepted => if c = client ∧ accepted then some (some document) else none
    | .remove c => if c = client then some none else none
    | _ => none

/-- The document that the service has for a client, after calls. -/
def standing (calls : List (Option String)) : Option String := calls.head?.join

/-- The list in use is one that the service gave for the document that it has. -/
def Agrees (service : Service σ) (client : String) (artifact : Option Artifact)
    (calls : List (Option String)) : Prop :=
  match standing calls with
  | none => artifact = none
  | some document => ∃ a, artifact = some a ∧ service.Gives client document a

theorem agrees_none {service : Service σ} {client : String} {k : List (Option String)} :
    Agrees service client none k ↔ standing k = none := by
  unfold Agrees
  split <;> simp_all

theorem agrees_cons {service : Service σ} {client document : String} {a : Artifact}
    (gives : service.Gives client document a) (k : List (Option String)) :
    Agrees service client (some a) (some document :: k) := ⟨a, rfl, gives⟩

/-! ## Calls of notices -/

section Notices

variable (client : String)

theorem callLog_append (a b : List Notice) :
    callLog client (a ++ b) = callLog client a ++ callLog client b :=
  List.filter_append ..

theorem callLog_refusal (accepting : Bool) (queued : Option Nat) :
    callLog client (Notice.refusal accepting queued) = [] := by
  unfold Notice.refusal
  cases queued <;> cases accepting <;> rfl

theorem callLog_issue (r : Removal) :
    callLog client (Notice.issue client r) = if r.maybeStored then [.remove client] else [] := by
  unfold Notice.issue
  cases r.maybeStored <;> simp [callLog, Notice.IsCallFor]

theorem callLog_removals (rs : List Removal) :
    callLog client (Notice.removals client rs) =
      List.replicate (rs.countP (·.maybeStored)) (.remove client) := by
  induction rs with
  | nil => rfl
  | cons r rs ih =>
    have discard : callLog client (.discard client r.hadArtifact :: Notice.issue client r) =
        callLog client (Notice.issue client r) := rfl
    rw [Notice.removals_cons, callLog_append, ih, discard, callLog_issue, List.countP_cons]
    cases r.maybeStored
    · simp
    · rw [if_pos rfl, if_pos rfl, ← List.replicate_succ']

theorem callLog_land (ticket : Nat) (outcome : Outcome) (document : String) (accepted : Bool) :
    callLog client [.complete ticket outcome, .compile client document accepted] =
      [.compile client document accepted] := by
  simp [callLog, Notice.IsCallFor]

theorem calls_eq (trace : List Notice) :
    calls client trace = (callLog client trace).filterMap Notice.effect? := by
  rw [calls, callLog, List.filterMap_filter]
  refine List.filterMap_congr fun n _ => ?_
  cases n with
  | compile c document accepted =>
    by_cases here : c = client <;> simp [Notice.IsCallFor, Notice.effect?, here]
  | _ => simp [Notice.IsCallFor, Notice.effect?]

theorem calls_append (a b : List Notice) :
    calls client (a ++ b) = calls client a ++ calls client b :=
  List.filterMap_append

theorem calls_refusal (accepting : Bool) (queued : Option Nat) :
    calls client (Notice.refusal accepting queued) = [] := by
  rw [calls_eq, callLog_refusal]
  rfl

theorem calls_issue (r : Removal) :
    calls client (Notice.issue client r) = if r.maybeStored then [none] else [] := by
  rw [calls_eq, callLog_issue]
  split <;> rfl

theorem calls_removals (rs : List Removal) :
    calls client (Notice.removals client rs) = List.replicate (rs.countP (·.maybeStored)) none := by
  rw [calls_eq, callLog_removals]
  exact List.filterMap_replicate_of_some rfl

theorem calls_land (ticket : Nat) (outcome : Outcome) (document : String) (accepted : Bool) :
    calls client [.complete ticket outcome, .compile client document accepted] =
      if accepted then [some document] else [] := by
  rw [calls_eq, callLog_land]
  cases accepted <;> rfl

variable {client}

/-- After a removal the service has no list. -/
theorem standing_removals {rs : List Removal} {r : Removal} (mem : r ∈ rs) (stored : r.maybeStored)
    (k : List (Option String)) :
    standing (calls client (Notice.removals client rs) ++ k) = none := by
  obtain ⟨n, count⟩ := Nat.exists_eq_succ_of_ne_zero
    (Nat.pos_iff_ne_zero.1 (List.countP_pos_iff.2 ⟨r, mem, stored⟩))
  rw [calls_removals, count]
  rfl

end Notices

/-! ## Calls of turns -/

section Turns

variable {service : Service σ} {client who : String} {cause : Cause} {accepting : Bool}
  {rules : List Rule} {fresh fresh' : Nat} {c c' : Cell} {notices : List Notice}

/-- A turn of one client makes no call for another. -/
theorem Turn.callLog_of_ne
    (turn : Turn service who accepting rules fresh c cause notices fresh' c')
    (ne : who ≠ client) : callLog client notices = [] := by
  have issue (r : Removal) : callLog client (Notice.issue who r) = [] := by
    unfold Notice.issue
    split <;> simp [callLog, Notice.IsCallFor, ne]
  have removals (rs : List Removal) : callLog client (Notice.removals who rs) = [] := by
    induction rs with
    | nil => rfl
    | cons r rs ih =>
      have discard : callLog client (.discard who r.hadArtifact :: Notice.issue who r) =
          callLog client (Notice.issue who r) := rfl
      rw [Notice.removals_cons, callLog_append, ih, discard, issue]
      rfl
  cases turn with
  | share | queue | takeOff | discardLater => rfl
  | start => exact callLog_refusal ..
  | skip =>
    rw [callLog_append, callLog_refusal]
    rfl
  | land =>
    rw [callLog_append, callLog_refusal, callLog_append, removals]
    simp [callLog, Notice.IsCallFor, ne]
  | discardNow => exact issue _

theorem Turn.calls_of_ne (turn : Turn service who accepting rules fresh c cause notices fresh' c')
    (ne : who ≠ client) : calls client notices = [] := by
  rw [calls_eq, turn.callLog_of_ne ne]
  rfl

/-! ## Agreement of turns -/

/-- Unless a discard waits, the list in use agrees with the calls, or else there is none and the
calls are among those that were lost. -/
def Cell.Consistent (service : Service σ) (client : String) (lost : List (Option String) → Prop)
    (c : Cell) (k : List (Option String)) : Prop :=
  c.removals = [] →
    Agrees service client c.slot.artifact k ∨ c.slot.artifact = none ∧ lost k

theorem Turn.consistent {lost : List (Option String) → Prop} {k : List (Option String)}
    (turn : Turn service client accepting rules fresh c cause notices fresh' c') (sound : c.Sound)
    (h : c.Consistent service client lost k) :
    c'.Consistent service client lost (calls client notices ++ k) := by
  cases turn with
  | share | queue | takeOff => exact h
  | start =>
    rw [calls_refusal]
    exact h
  | skip =>
    rw [calls_append, calls_refusal]
    exact h
  | @land f answer state running answered =>
    intro _
    rw [calls_append, calls_refusal, calls_append, calls_land, List.nil_append, List.append_assoc]
    rcases sound.aloft f running with ⟨epoch, -, removals⟩ | ⟨epoch, slot, r, mem, stored⟩
    · rw [removals]
      cases answer with
      | ok a =>
        rw [Cell.landed_ok epoch]
        exact .inl (agrees_cons ⟨state, answered⟩ k)
      | error report =>
        rw [Cell.landed_error epoch]
        exact h removals
    · -- what the outdated flight left at the service is removed
      have empty : ((c.landed f answer).next accepting).slot.artifact = none := by
        rw [Cell.landed_outdated answer (Nat.ne_of_lt epoch), Cell.next, slot]
        rfl
      rw [empty, agrees_none]
      exact .inl (standing_removals mem stored _)
  | discardLater =>
    intro none
    simp at none
  | discardNow flight =>
    intro _
    obtain ⟨state, removals⟩ := sound.grounded flight
    rw [calls_issue]
    cases artifact : c.slot.artifact with
    | some a =>
      have stored : c.removal.maybeStored = true := by simp [Cell.removal, artifact]
      rw [stored]
      exact .inl (agrees_none.2 rfl)
    | none =>
      have unstored : c.removal.maybeStored = false := by simp [Cell.removal, artifact, state]
      rw [unstored]
      have old := h removals
      rw [artifact] at old
      exact old

end Turns

end ContentBlocker
