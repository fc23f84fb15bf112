import ContentBlocker.Compile.History
import ContentBlocker.Proofs.Compile.Turn
import Mathlib.Logic.Function.Basic
import Mathlib.Logic.Relation

/-!
# Schedulers by turns

The view of a scheduler forgets its workers, its gates and its line: they only decide which turn
comes when.  `works_settle` and the lemmas on the operations say that every event is a request or a
discard of one client, or neither, followed by turns of the workers.
-/

namespace ContentBlocker.Scheduler

variable {σ : Type}

/-- What the clients of a scheduler can tell of it. -/
structure View where
  accepting : Bool
  store : Store
  cells : String → Option Cell
  nextTicket : Nat
  trace : List Notice

def view (s : Scheduler σ) : View :=
  ⟨s.accepting, s.store, s.cells.get?, s.nextTicket, s.trace⟩

namespace View

def cellOf (v : View) (client : String) : Cell := (v.cells client).getD .empty

/-- The merged rules of a client. -/
def rulesOf (v : View) (client : String) : List Rule := (v.store.rulesOf client).merged

/-- The view with notices told on top of its trace. -/
def told (v : View) (notices : List Notice) : View := { v with trace := notices ++ v.trace }

/-- The view after a turn of a client's cell. -/
def turned (v : View) (client : String) (notices : List Notice) (fresh : Nat) (c : Cell) : View :=
  { v.told notices with cells := Function.update v.cells client c.kept, nextTicket := fresh }

/-- One view follows another by a turn of one cell. -/
inductive Step (service : Service σ) (cause : Cause) (client : String) (v : View) : View → Prop
  | mk {notices : List Notice} {fresh : Nat} {c : Cell}
    (turn : Turn service client v.accepting (v.rulesOf client) v.nextTicket (v.cellOf client) cause
      notices fresh c) :
    Step service cause client v (v.turned client notices fresh c)

/-- One view follows another by turns of the workers. -/
def Works (service : Service σ) : View → View → Prop :=
  Relation.ReflTransGen fun v w => ∃ client, Step service .work client v w

theorem Works.of_eq {service : Service σ} {v w : View} (h : w = v) : Works service v w :=
  h ▸ .refl

theorem told_told (v : View) (a b : List Notice) : (v.told a).told b = v.told (b ++ a) := by
  simp [told]

theorem turned_told (v : View) (client : String) (a b : List Notice) (fresh : Nat) (c : Cell) :
    (v.told a).turned client b fresh c = v.turned client (b ++ a) fresh c := by
  simp [turned, told]

end View

/-! ## The parts of steps -/

variable (s : Scheduler σ) (service : Service σ) (client : String)

theorem cells_fresh (workers : Nat) (limits : Limits) (state : σ) :
    (fresh workers limits state).view.cells client = none := rfl

theorem view_cellOf : s.view.cellOf client = s.cellOf client := rfl

variable {s client} in
theorem cellOf_of_present {c : Cell} (present : s.cells.get? client = some c) :
    s.cellOf client = c := by
  rw [cellOf, present]
  rfl

theorem view_note (n : Notice) : (s.note n).view = s.view.told [n] := rfl

theorem get?_set_eq (cells : Table String Cell) (c : Cell) :
    (cells.set client c).get? = Function.update cells.get? client (some c) := by
  funext other
  rw [Table.get?_set, Function.update_apply]
  simp only [eq_comm]

theorem view_keep (c : Cell) :
    (s.keep client c).view = s.view.turned client [] s.view.nextTicket c := by
  unfold keep view View.turned View.told Cell.kept
  split
  · simp only [List.nil_append, View.mk.injEq, true_and, and_true]
    funext other
    rw [Table.get?_erase, Function.update_apply]
    simp only [eq_comm]
  · simp only [List.nil_append, get?_set_eq]

theorem view_set {c : Cell} (used : c.isIdle = false) :
    { s with cells := s.cells.set client c }.view =
      s.view.turned client [] s.view.nextTicket c := by
  simp only [view, View.turned, View.told, get?_set_eq, Cell.kept, used, Bool.false_eq_true,
    if_false, List.nil_append]

theorem view_issue (r : Removal) :
    (s.issue service client r).view = s.view.told (Notice.issue client r) := by
  unfold issue Notice.issue
  split <;> rfl

theorem view_removeAll (rs : List Removal) :
    (s.removeAll service client rs).view = s.view.told (Notice.removals client rs) := by
  induction rs generalizing s with
  | nil => rfl
  | cons r rs ih =>
    have step : (s.removeAll service client (r :: rs)) =
        ((s.issue service client r).note (.discard client r.hadArtifact)).removeAll service client
          rs := rfl
    rw [step, ih, view_note, view_issue, View.told_told, View.told_told, Notice.removals_cons,
      List.append_assoc]
    rfl

theorem view_start (c : Cell) (ticket : Nat) :
    (s.start client c ticket).view =
      s.view.turned client (Notice.refusal s.view.accepting (some ticket)) s.view.nextTicket
        { c with running := if s.view.accepting then some (.waiting ticket) else none } := by
  have kept (running : Option Running) := view_keep s client { c with running }
  unfold start Notice.refusal
  cases h : s.accepting with
  | true =>
    rw [show s.view.accepting = true from h]
    exact kept (some (.waiting ticket))
  | false =>
    rw [show s.view.accepting = false from h]
    exact (view_note _ _).trans (congrArg (View.told · _) (kept none))

theorem view_finish (c : Cell) :
    (s.finish client c).view =
      s.view.turned client (Notice.refusal s.view.accepting c.queued) s.view.nextTicket
        (c.next s.view.accepting) := by
  unfold finish Cell.next
  cases c.queued with
  | none =>
    rw [view_keep]
    simp [Notice.refusal]
  | some ticket =>
    rw [view_start]
    simp

/-! ## The work of the workers -/

theorem view_land (f : Flight) :
    let c := s.cellOf client
    let answer := (service.compile (listIdentifier client) f.conversion.document s.service).1
    (s.land service client f).view = s.view.turned client
      (Notice.refusal s.view.accepting c.queued ++
        (Notice.removals client c.removals ++
          [.complete f.ticket (c.outcome client f answer),
            .compile client f.conversion.document answer.isOk]))
      s.view.nextTicket ((c.landed f answer).next s.view.accepting) := by
  intro c answer
  rw [← c.landed_queued f answer]
  unfold land
  rw [view_finish, view_removeAll, view_note, view_note, View.told_told, View.told_told,
    View.turned_told, List.append_assoc]
  rfl

theorem step_land {f : Flight} (running : (s.cellOf client).running = some (.flying f)) :
    View.Step service .work client s.view (s.land service client f).view := by
  rw [view_land]
  exact .mk (.land s.service running rfl)

/-- Giving a worker to a waiting compilation is a turn, or two if its gate is open. -/
theorem turns_takeOff {ticket : Nat}
    (running : (s.cellOf client).running = some (.waiting ticket)) :
    Relation.ReflTransGen (View.Step service .work client) s.view
      (s.takeOff service client ticket).view := by
  unfold takeOff
  by_cases empty : (s.store.rulesOf client).merged = []
  · simp only [empty, List.isEmpty_nil, if_true, view_finish, view_note, View.turned_told]
    exact .single (.mk (.skip running empty))
  · let f : Flight := ⟨ticket, (s.cellOf client).epoch, .ofRules (s.store.rulesOf client).merged⟩
    let flown : Scheduler σ :=
      { s with cells := s.cells.set client ((s.cellOf client).takeOff f) }
    have step : View.Step service .work client s.view flown.view := by
      rw [view_set s client rfl]
      exact .mk (.takeOff running empty)
    have running' : (flown.cellOf client).running = some (.flying f) := by
      simp only [flown, cellOf, Table.get?_set, if_true, Option.getD_some, Cell.takeOff]
    simp only [List.isEmpty_iff, empty, if_false]
    split
    · exact .single step
    · exact .tail (.single step) (step_land flown service client running')

theorem works_dispatch (fuel : Nat) : View.Works service s.view (dispatch service fuel s).view := by
  induction fuel generalizing s with
  | zero => exact .refl
  | succ fuel ih =>
    rw [dispatch]
    split
    · exact .refl
    · rename_i client rest _
      split
      · dsimp only
        split
        · rename_i ticket running
          have turns := turns_takeOff { s with line := rest } service client running
          exact (Relation.ReflTransGen.mono (fun _ _ step => ⟨client, step⟩) _ _ turns).trans (ih _)
        · exact ih { s with line := rest }
      · exact .refl

theorem works_settle : View.Works service s.view (s.settle service).view :=
  works_dispatch s service _

/-! ## Submissions -/

theorem submit_of_queued {ticket : Nat} (queued : (s.cellOf client).queued = some ticket) :
    s.submit service client =
      (ticket,
        { s with cells := s.cells.set client { s.cellOf client with removed := false } }) := by
  simp only [submit, queued]

theorem submit_of_running {r : Running} (queued : (s.cellOf client).queued = none)
    (running : (s.cellOf client).running = some r) :
    s.submit service client =
      (s.nextTicket,
        { s with
          cells := s.cells.set client
            { s.cellOf client with removed := false, queued := some s.nextTicket }
          nextTicket := s.nextTicket + 1 }) := by
  simp only [submit, queued, running]

theorem submit_of_idle (queued : (s.cellOf client).queued = none)
    (running : (s.cellOf client).running = none) :
    s.submit service client =
      (s.nextTicket,
        ({ s with nextTicket := s.nextTicket + 1 }.start client
          { s.cellOf client with removed := false } s.nextTicket).settle service) := by
  simp only [submit, queued, running]

/-- A submission is a request, behind which the workers may have work. -/
theorem exists_step_submit : ∃ next : Scheduler σ,
    View.Step service .request client s.view next.view ∧
      ((s.submit service client).2 = next ∨ (s.submit service client).2 = next.settle service) := by
  let c : Cell := { s.cellOf client with removed := false }
  cases queued : (s.cellOf client).queued with
  | some ticket =>
    have used : c.isIdle = false := by simp [c, Cell.isIdle, queued]
    rw [submit_of_queued s service client queued]
    refine ⟨_, ?_, .inl rfl⟩
    rw [view_set s client used]
    exact .mk (.share queued)
  | none =>
    cases running : (s.cellOf client).running with
    | some r =>
      have used : { c with queued := some s.nextTicket }.isIdle = false := by
        simp [c, Cell.isIdle, running]
      rw [submit_of_running s service client queued running]
      refine ⟨_, ?_, .inl rfl⟩
      rw [view_set { s with nextTicket := s.nextTicket + 1 } client used]
      exact .mk (.queue queued (by simp [view_cellOf, running]))
    | none =>
      rw [submit_of_idle s service client queued running]
      refine ⟨_, ?_, .inr rfl⟩
      have next : { c with queued := some s.nextTicket }.next s.view.accepting =
          { c with
            running := if s.view.accepting then some (.waiting s.nextTicket) else none } := by
        simp [Cell.next, c, queued]
      have started := view_start { s with nextTicket := s.nextTicket + 1 } client c s.nextTicket
      rw [started.trans (congrArg _ next.symm)]
      exact .mk (.start queued running)

/-- A submission is a request, then work. -/
theorem step_submit : ∃ v, View.Step service .request client s.view v ∧
    View.Works service v (s.submit service client).2.view := by
  obtain ⟨next, step, same | settled⟩ := exists_step_submit s service client
  · exact ⟨next.view, step, .of_eq (congrArg view same)⟩
  · exact ⟨next.view, step, settled ▸ works_settle next service⟩

/-! ## Discards -/

theorem discard_of_absent (absent : s.cells.get? client = none) :
    s.discard service client = (some false, s) := by
  simp only [discard, absent]

/-- A discard of a client that has a cell is one turn. -/
theorem step_discard {c : Cell} (present : s.cells.get? client = some c) :
    View.Step service .discard client s.view (s.discard service client).2.view := by
  obtain rfl : c = s.view.cellOf client := by
    rw [view_cellOf, cellOf, present, Option.getD_some]
  unfold discard
  cases flight : (s.view.cellOf client).flight? with
  | some f =>
    have running := Cell.running_of_flight _ flight
    simp only [present, flight]
    rw [view_set s client (by simp [Cell.isIdle, Cell.discarded, running])]
    exact .mk (.discardLater running)
  | none =>
    simp only [present, flight]
    rw [view_keep, view_issue, View.turned_told]
    exact .mk (.discardNow flight)

/-! ## Events -/

/-- What an event does itself, before the work that it leaves to the workers. -/
inductive View.Opens (service : Service σ) (v : View) : Event σ → View → Prop
  | change (c : Store.Change) : Opens service v (.change c) { v with store := v.store.after c }
  | submit {client : String} {w : View} (step : Step service .request client v w) :
    Opens service v (.submit client) w
  | discard {client : String} {w : View} (step : Step service .discard client v w) :
    Opens service v (.discard client) w
  | discardAbsent {client : String} (absent : v.cells client = none) :
    Opens service v (.discard client) v
  | hold (client : String) : Opens service v (.hold client) v
  | release (client : String) : Opens service v (.release client) v
  | releaseOnce (client : String) : Opens service v (.releaseOnce client) v
  | alter (f : σ → σ) : Opens service v (.alter f) v
  | shutdown : Opens service v .shutdown { v with accepting := false }

/-- The event lets the stopped compilation of a client through. -/
def Event.Frees (client : String) : Event σ → Prop
  | .release other | .releaseOnce other => other = client
  | _ => False

/-- After what an event does itself the scheduler may do what can be done, in the case of a gate
after the compilation that was stopped there has landed. -/
theorem exists_opens_after (e : Event σ) : ∃ next : Scheduler σ,
    View.Opens service s.view e next.view ∧
      (s.after service e = next ∨ s.after service e = next.settle service ∨
        ∃ client f held, e.Frees client ∧ next = { s with held } ∧
          (next.cellOf client).running = some (.flying f) ∧
          s.after service e = (next.land service client f).settle service) := by
  have freed (s : Scheduler σ) (client : String) : s.releaseOnce service client = s ∨
      ∃ f, (s.cellOf client).running = some (.flying f) ∧
        s.releaseOnce service client = (s.land service client f).settle service := by
    unfold releaseOnce
    cases flight : (s.cellOf client).flight? with
    | none => exact .inl rfl
    | some f => exact .inr ⟨f, Cell.running_of_flight _ flight, rfl⟩
  cases e with
  | change c => exact ⟨_, .change c, .inl rfl⟩
  | submit client =>
    obtain ⟨next, step, cases⟩ := exists_step_submit s service client
    exact ⟨next, .submit step, cases.imp_right .inl⟩
  | hold client => exact ⟨s.hold client, .hold client, .inl rfl⟩
  | release client =>
    let opened : Scheduler σ := { s with held := s.held.filter (· ≠ client) }
    refine ⟨opened, .release client, (freed opened client).imp_right fun ⟨f, running, eq⟩ => ?_⟩
    exact .inr ⟨client, f, opened.held, rfl, rfl, running, eq⟩
  | releaseOnce client =>
    refine ⟨s, .releaseOnce client, (freed s client).imp_right fun ⟨f, running, eq⟩ => ?_⟩
    exact .inr ⟨client, f, s.held, rfl, rfl, running, eq⟩
  | discard client =>
    cases here : s.cells.get? client with
    | none =>
      refine ⟨s, .discardAbsent here, .inl ?_⟩
      rw [after, discard_of_absent s service client here]
    | some c => exact ⟨_, .discard (step_discard s service client here), .inl rfl⟩
  | alter f => exact ⟨{ s with service := f s.service }, .alter f, .inl rfl⟩
  | shutdown => exact ⟨_, .shutdown, .inl rfl⟩

theorem opens_after (e : Event σ) :
    ∃ v, View.Opens service s.view e v ∧ View.Works service v (s.after service e).view := by
  obtain ⟨next, opens, same | settled | ⟨client, f, -, -, -, running, landed⟩⟩ :=
    exists_opens_after s service e
  · exact ⟨next.view, opens, .of_eq (congrArg view same)⟩
  · exact ⟨next.view, opens, settled ▸ works_settle next service⟩
  · refine ⟨next.view, opens, ?_⟩
    rw [landed]
    exact .head ⟨client, step_land next service client running⟩ (works_settle _ service)

theorem View.Works.surroundings {v w : View} (works : View.Works service v w) :
    w.accepting = v.accepting ∧ w.store = v.store := by
  induction works with
  | refl => exact ⟨rfl, rfl⟩
  | tail _ last ih =>
    obtain ⟨client, step⟩ := last
    cases step
    exact ih

/-- Only a shutdown closes the pool. -/
theorem accepting_after (e : Event σ) :
    (s.after service e).accepting = match e with
      | .shutdown => false
      | _ => s.accepting := by
  obtain ⟨v, opens, works⟩ := opens_after s service e
  refine works.surroundings.1.trans ?_
  cases opens with
  | submit step | discard step =>
    cases step
    rfl
  | _ => rfl

/-- Only a change of the rules changes the store. -/
theorem store_after (e : Event σ) :
    (s.after service e).store = match e with
      | .change c => s.store.after c
      | _ => s.store := by
  obtain ⟨v, opens, works⟩ := opens_after s service e
  refine works.surroundings.2.trans ?_
  cases opens with
  | submit step | discard step =>
    cases step
    rfl
  | _ => rfl

/-! ## Invariants -/

section Invariants

variable {P : View → Prop} {service}

theorem View.Works.preserves
    (step : ∀ {v w : View} {client : String}, Step service .work client v w → P v → P w)
    {v w : View} (works : Works service v w) (h : P v) : P w := by
  induction works with
  | refl => exact h
  | tail _ last ih =>
    obtain ⟨client, last⟩ := last
    exact step last ih

theorem replay_append (first second : List (Event σ)) :
    s.replay service (first ++ second) = (s.replay service first).replay service second :=
  List.foldl_append ..

/-- What the events of a run and the work behind them preserve holds after it. -/
theorem replay_preserves_of_opens (events : List (Event σ))
    (opens : ∀ {v w : View} {e : Event σ}, e ∈ events → View.Opens service v e w → P v → P w)
    (work : ∀ {v w : View} {client : String}, View.Step service .work client v w → P v → P w)
    (h : P s.view) : P (s.replay service events).view := by
  induction events generalizing s with
  | nil => exact h
  | cons e events ih =>
    obtain ⟨v, first, works⟩ := opens_after s service e
    exact ih (s.after service e) (fun mem => opens (List.mem_cons_of_mem e mem))
      (works.preserves work (opens List.mem_cons_self first h))

/-- What the turns of a run preserve, whatever the store and the pool are, holds after it.  Requests
and discards turn only the cells that the events name. -/
theorem replay_preserves_of_named (events : List (Event σ))
    (step : ∀ {v w : View} {cause : Cause} {client : String},
      (cause = .request → .submit client ∈ events) → (cause = .discard → .discard client ∈ events) →
      View.Step service cause client v w → P v → P w)
    (surroundings : ∀ {v : View} (store : Store) (accepting : Bool),
      P v → P { v with store, accepting })
    (h : P s.view) : P (s.replay service events).view := by
  refine replay_preserves_of_opens s events ?_
    (step (fun work => by cases work) (fun work => by cases work)) h
  intro v w e mem opens h
  cases opens with
  | change c => exact surroundings _ _ h
  | submit first => exact step (fun _ => mem) (fun other => by cases other) first h
  | discard first => exact step (fun other => by cases other) (fun _ => mem) first h
  | shutdown => exact surroundings v.store false h
  | _ => exact h

/-- What every turn preserves, whatever the store and the pool are, holds in every run. -/
theorem replay_preserves
    (step : ∀ {v w : View} {cause : Cause} {client : String},
      View.Step service cause client v w → P v → P w)
    (surroundings : ∀ {v : View} (store : Store) (accepting : Bool),
      P v → P { v with store, accepting })
    (h : P s.view) (events : List (Event σ)) : P (s.replay service events).view :=
  replay_preserves_of_named s events (fun _ _ => step) surroundings h

end Invariants

end ContentBlocker.Scheduler
