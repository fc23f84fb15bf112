import ContentBlocker.Proofs.Compile.View
import Mathlib.Data.List.Nodup
import Mathlib.Data.List.Perm.Basic

/-!
# Tickets

A ticket is handed out once and answered at most once; until it is answered, one cell holds it, as
the compilation that runs or as the one queued behind it.  `Turn.conserves` says so of one turn and
`orderly_replay` of a run.
-/

namespace ContentBlocker

/-! ## What turns do to tickets -/

/-- The tickets that notices answer. -/
def answered (notices : List Notice) : List Nat :=
  notices.filterMap fun
    | .complete ticket _ => some ticket
    | _ => none

theorem answered_append (a b : List Notice) : answered (a ++ b) = answered a ++ answered b :=
  List.filterMap_append

theorem mem_answered {ticket : Nat} {notices : List Notice} :
    ticket ∈ answered notices ↔ ∃ outcome, .complete ticket outcome ∈ notices := by
  unfold answered
  rw [List.mem_filterMap]
  constructor
  · rintro ⟨n, mem, h⟩
    cases n with
    | complete t outcome =>
      cases Option.some.inj h
      exact ⟨outcome, mem⟩
    | _ => cases h
  · rintro ⟨outcome, mem⟩
    exact ⟨_, mem, rfl⟩

/-- The answer to a ticket that a notice tells. -/
def Notice.answer? (ticket : Nat) : Notice → Option Outcome
  | .complete t outcome => if t = ticket then some outcome else none
  | _ => none

section Answer

variable {ticket : Nat} {outcome : Outcome} {trace : List Notice}

theorem told_of_findSome? (found : trace.findSome? (Notice.answer? ticket) = some outcome) :
    .complete ticket outcome ∈ trace := by
  obtain ⟨n, mem, found⟩ := List.exists_of_findSome?_eq_some found
  cases n with
  | complete t o =>
    dsimp only [Notice.answer?] at found
    split at found
    · rename_i same
      cases found
      exact same ▸ mem
    · cases found
  | _ => cases found

/-- The answer that is told of a ticket is found, if no other is told of it. -/
theorem findSome?_of_told (once : (answered trace).Nodup)
    (told : .complete ticket outcome ∈ trace) :
    trace.findSome? (Notice.answer? ticket) = some outcome := by
  induction trace with
  | nil => cases told
  | cons n trace ih =>
    rcases List.mem_cons.1 told with rfl | old
    · simp [Notice.answer?]
    · cases n with
      | complete t other =>
        obtain ⟨new, once⟩ := List.nodup_cons.1 (show (t :: answered trace).Nodup from once)
        have ne : t ≠ ticket := by
          rintro rfl
          exact new (mem_answered.2 ⟨outcome, old⟩)
        simpa [ne, Notice.answer?] using ih once old
      | _ => exact ih once old

end Answer

theorem answered_issue (client : String) (r : Removal) : answered (Notice.issue client r) = [] := by
  unfold Notice.issue
  split <;> rfl

theorem answered_removals (client : String) (rs : List Removal) :
    answered (Notice.removals client rs) = [] := by
  rw [List.eq_nil_iff_forall_not_mem]
  intro ticket mem
  obtain ⟨outcome, mem⟩ := mem_answered.1 mem
  simp only [Notice.removals, List.mem_flatMap, List.mem_cons, reduceCtorEq, false_or] at mem
  obtain ⟨r, -, mem⟩ := mem
  have : ticket ∈ answered (Notice.issue client r) := mem_answered.2 ⟨outcome, mem⟩
  simp [answered_issue] at this

namespace Cell

theorem tickets_kept (c : Cell) : (c.kept.getD .empty).tickets = c.tickets := by
  unfold tickets
  rw [running_kept, queued_kept]

/-- The queued ticket is next, or refused. -/
theorem tickets_next (accepting : Bool) (c : Cell) :
    (c.next accepting).tickets ++ answered (Notice.refusal accepting c.queued) =
      c.queued.toList := by
  unfold next tickets Notice.refusal
  cases accepting <;> cases c.queued <;> simp [answered, Running.ticket]

end Cell

variable {σ : Type} {service : Service σ} {client : String} {cause : Cause}

/-- A turn loses no ticket and answers none twice: what it leaves open and what it answers is what
was open and what it hands out. -/
theorem Turn.conserves {accepting : Bool} {rules : List Rule} {fresh fresh' : Nat} {c c' : Cell}
    {notices : List Notice}
    (turn : Turn service client accepting rules fresh c cause notices fresh' c') :
    fresh ≤ fresh' ∧ (c'.tickets ++ answered notices).Perm
      (c.tickets ++ List.range' fresh (fresh' - fresh)) := by
  cases turn with
  | share queued => exact ⟨Nat.le_refl _, by simp [answered, Cell.tickets]⟩
  | queue queued running => exact ⟨Nat.le_succ _, by simp [answered, Cell.tickets, queued]⟩
  | start queued running =>
    refine ⟨Nat.le_succ _, ?_⟩
    have next := Cell.tickets_next accepting { c with removed := false, queued := some fresh }
    dsimp only at next
    rw [next]
    simp [Cell.tickets, queued, running]
  | skip running =>
    refine ⟨Nat.le_refl _, ?_⟩
    rw [answered_append, ← List.append_assoc, Cell.tickets_next]
    simp [answered, Cell.tickets, running, Running.ticket]
  | takeOff running =>
    refine ⟨Nat.le_refl _, ?_⟩
    simp [answered, Cell.tickets, Cell.takeOff, running, Running.ticket]
  | land state running =>
    refine ⟨Nat.le_refl _, ?_⟩
    rename_i f answer _
    rw [answered_append, answered_append, answered_removals, ← c.landed_queued f answer,
      ← List.append_assoc, Cell.tickets_next, Cell.landed_queued]
    simp [answered, Cell.tickets, running, Running.ticket]
  | discardLater running => exact ⟨Nat.le_refl _, by simp [answered, Cell.tickets, Cell.discarded]⟩
  | discardNow flight =>
    exact ⟨Nat.le_refl _, by simp [answered_issue, Cell.tickets, Cell.discarded]⟩

/-- What a turn leaves open or answers was open, or is handed out by the turn. -/
theorem Turn.origin {accepting : Bool} {rules : List Rule} {fresh fresh' ticket : Nat}
    {c c' : Cell} {notices : List Notice}
    (turn : Turn service client accepting rules fresh c cause notices fresh' c')
    (mem : ticket ∈ c'.tickets ++ answered notices) :
    ticket ∈ c.tickets ∨ fresh ≤ ticket ∧ ticket < fresh' := by
  obtain ⟨le, perm⟩ := turn.conserves
  rw [perm.mem_iff, List.mem_append, List.mem_range'_1] at mem
  rwa [Nat.add_sub_cancel' le] at mem

/-! ## Tickets of a view -/

namespace Scheduler

/-- No ticket is held or answered twice, and no ticket that is still to be handed out is in use. -/
structure View.Orderly (v : View) : Prop where
  nodup : ∀ client, ((v.cellOf client).tickets ++ answered v.trace).Nodup
  apart : ∀ a b, a ≠ b → List.Disjoint (v.cellOf a).tickets (v.cellOf b).tickets
  below : ∀ client, ∀ ticket ∈ (v.cellOf client).tickets ++ answered v.trace, ticket < v.nextTicket

namespace View

variable {v w : View}

theorem cellOf_turned (notices : List Notice) (fresh : Nat) (c : Cell) (other : String) :
    (v.turned client notices fresh c).cellOf other =
      if other = client then c.kept.getD .empty else v.cellOf other := by
  unfold cellOf turned
  simp only [Function.update_apply]
  split <;> rfl

theorem cellOf_turned_self {notices : List Notice} {fresh : Nat} {c : Cell}
    (used : c.isIdle = false) : (v.turned client notices fresh c).cellOf client = c := by
  rw [cellOf_turned, if_pos rfl, Cell.kept, used]
  rfl

theorem cellOf_turned_idle {notices : List Notice} {fresh : Nat} {c : Cell}
    (idle : c.isIdle = true) : (v.turned client notices fresh c).cellOf client = .empty := by
  rw [cellOf_turned, if_pos rfl, Cell.kept, idle]
  rfl

theorem tickets_turned (notices : List Notice) (fresh : Nat) (c : Cell) (other : String) :
    ((v.turned client notices fresh c).cellOf other).tickets =
      if other = client then c.tickets else (v.cellOf other).tickets := by
  rw [cellOf_turned]
  split
  · exact c.tickets_kept
  · rfl

section

variable {rules : List Rule} {fresh : Nat} {c : Cell} {notices : List Notice}

/-- What a turn leaves open or answers was not answered before it. -/
theorem Orderly.nodup_turned (h : v.Orderly)
    (turn : Turn service client v.accepting rules v.nextTicket (v.cellOf client) cause notices fresh
      c) :
    (c.tickets ++ (answered notices ++ answered v.trace)).Nodup := by
  obtain ⟨-, perm⟩ := turn.conserves
  obtain ⟨held, told, apart⟩ := List.nodup_append'.1 (h.nodup client)
  have handed {ticket : Nat} (mem : ticket ∈ List.range' v.nextTicket (fresh - v.nextTicket)) :
      v.nextTicket ≤ ticket := (List.mem_range'_1.1 mem).1
  rw [← List.append_assoc, (perm.append_right _).nodup_iff]
  refine List.nodup_append'.2 ⟨List.nodup_append'.2 ⟨held, List.nodup_range' .., ?_⟩, told,
    List.disjoint_append_left.2 ⟨apart, ?_⟩⟩
  · intro ticket mem new
    have := h.below client ticket (List.mem_append_left _ mem)
    have := handed new
    omega
  · intro ticket new mem
    have := h.below client ticket (List.mem_append_right _ mem)
    have := handed new
    omega

/-- Another cell holds none of the tickets that a turn deals with. -/
theorem Orderly.disjoint_turned (h : v.Orderly)
    (turn : Turn service client v.accepting rules v.nextTicket (v.cellOf client) cause notices fresh
      c) {other : String} (ne : other ≠ client) :
    List.Disjoint (v.cellOf other).tickets (c.tickets ++ answered notices) := by
  intro ticket mem dealt
  rcases turn.origin dealt with here | new
  · exact h.apart other client ne mem here
  · have := h.below other ticket (List.mem_append_left _ mem)
    omega

end

theorem Step.orderly (step : Step service cause client v w) (h : v.Orderly) : w.Orderly := by
  cases step with
  | @mk notices fresh c turn =>
    have own := h.nodup_turned turn
    have away {other : String} (ne : other ≠ client) := h.disjoint_turned turn ne
    have trace : (v.turned client notices fresh c).trace = notices ++ v.trace := rfl
    constructor
    · intro other
      rw [tickets_turned, trace, answered_append]
      split
      · exact own
      · rename_i ne
        have old := List.nodup_append'.1 (h.nodup other)
        exact List.nodup_append'.2 ⟨old.1, (List.nodup_append'.1 own).2.1,
          List.disjoint_append_right.2 ⟨(List.disjoint_append_right.1 (away ne)).2, old.2.2⟩⟩
    · intro a b ne
      rw [tickets_turned, tickets_turned]
      split <;> split <;> rename_i ha hb
      · exact absurd (ha.trans hb.symm) ne
      · exact List.disjoint_symm (List.disjoint_append_right.1 (away hb)).1
      · exact (List.disjoint_append_right.1 (away ha)).1
      · exact h.apart a b ne
    · intro other ticket mem
      rw [tickets_turned, trace, answered_append] at mem
      have old (other : String) (mem : ticket ∈ (v.cellOf other).tickets ++ answered v.trace) :
          ticket < fresh := Nat.lt_of_lt_of_le (h.below other ticket mem) turn.conserves.1
      have dealt (mem : ticket ∈ c.tickets ++ answered notices) : ticket < fresh := by
        rcases turn.origin mem with here | new
        · exact old client (List.mem_append_left _ here)
        · exact new.2
      split at mem
      · rw [← List.append_assoc, List.mem_append] at mem
        exact mem.elim dealt fun told => old client (List.mem_append_right _ told)
      · simp only [List.mem_append] at mem
        rcases mem with held | news | told
        · exact old other (List.mem_append_left _ held)
        · exact dealt (List.mem_append_right _ news)
        · exact old other (List.mem_append_right _ told)

end View

variable (service)

theorem orderly_after (s : Scheduler σ) (h : s.view.Orderly) (events : List (Event σ)) :
    (s.replay service events).view.Orderly :=
  replay_preserves s View.Step.orderly (fun _ _ h => ⟨h.nodup, h.apart, h.below⟩) h events

theorem orderly_replay (workers : Nat) (limits : Limits) (state : σ) (events : List (Event σ)) :
    ((fresh workers limits state).replay service events).view.Orderly := by
  refine orderly_after service _ ?_ events
  refine ⟨fun _ => List.nodup_nil, fun _ _ _ => List.disjoint_nil_left _, fun _ _ h => ?_⟩
  cases h

end Scheduler

end ContentBlocker
