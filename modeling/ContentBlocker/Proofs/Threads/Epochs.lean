import ContentBlocker.Proofs.Threads.Tickets
import Mathlib.Data.List.Induction

/-!
# Epochs

A compilation reads the epoch of its slot when it begins, and each discard ends the epoch.  What
began before a discard is of an earlier epoch than its slot from then on, and a list comes into use
only when a thread of the epoch puts it down: `Sound.put_down`.
-/

namespace ContentBlocker

variable {σ : Type}

/-! ## Moves -/

namespace Stage

/-- The thread has begun a compilation, and has not told the answer. -/
def hasBegun : Stage → Bool
  | begun .. | skipping .. | loaded _ | calling _ | answered .. | recorded .. | unlocked .. => true
  | _ => false

/-- The epoch that the compilation of a thread began in, until it puts down what it found. -/
def epoch? : Stage → Option Nat
  | begun _ epoch _ | skipping _ epoch _ => some epoch
  | loaded f | calling f | answered f _ => some f.epoch
  | _ => none

/-- The rules that the thread has taken, until it puts down what the service answered. -/
def flight? : Stage → Option Flight
  | loaded f | calling f | answered f _ => some f
  | _ => none

/-- The summary that the thread is to answer a ticket with. -/
def summary? : Stage → Option (Nat × Summary)
  | recorded ticket (.ok summary) | unlocked ticket (.ok summary) => some (ticket, summary)
  | _ => none

theorem of_isFirst {stage : Stage} (first : stage.isFirst = true) :
    stage.epoch? = none ∧ stage.summary? = none := by
  cases stage <;> first | exact ⟨rfl, rfl⟩ | cases first

theorem of_epoch? {stage : Stage} {epoch : Nat} (began : stage.epoch? = some epoch) :
    stage.hasBegun = true ∧ ∃ ticket, stage.tickets = [ticket] := by
  cases stage <;> first | exact ⟨rfl, _, rfl⟩ | cases began

theorem of_summary? {stage : Stage} {ticket : Nat} {summary : Summary}
    (next : stage.summary? = some (ticket, summary)) :
    stage.hasBegun = true ∧ stage.tickets = [ticket] := by
  cases stage with
  | recorded _ outcome | unlocked _ outcome =>
    cases outcome with
    | ok => cases next; exact ⟨rfl, rfl⟩
    | error => cases next
  | _ => cases next

theorem carries_of_epoch? {stage : Stage} {epoch : Nat} (began : stage.epoch? = some epoch) :
    stage.carries = true := by
  cases stage <;> first | rfl | cases began

end Stage

section Moves

variable {service : Service σ} {client : String} {accepting : Bool} {rules : List Rule}
  {x : SharedSlot} {state : σ}

namespace Compiles

variable {stage : Stage} {m : Move Stage σ}

theorem epoch (moves : Compiles service client accepting rules x state stage m) :
    m.shared.epoch = x.epoch := by
  cases moves with
  | skip => rw [SharedSlot.skip_eq]
  | _ => rfl

/-- A thread keeps the epoch that it began in, and begins in that of the slot. -/
theorem epoch? (moves : Compiles service client accepting rules x state stage m) {epoch : Nat}
    (began : m.stage.epoch? = some epoch) :
    stage.epoch? = some epoch ∨ (∃ ticket, stage = .locked ticket) ∧ epoch = x.epoch := by
  cases moves with
  | start => exact .inr ⟨⟨_, rfl⟩, (Option.some.inj began).symm⟩
  | lack | load | call | answer => exact .inl began
  | _ => cases began

theorem begun_or_left (moves : Compiles service client accepting rules x state stage m)
    (begun : stage.hasBegun = true ∨ stage.hasLeft = true) :
    m.stage.hasBegun = true ∨ m.stage.hasLeft = true := by
  cases moves <;> first | exact .inl rfl | exact .inr rfl | (rcases begun with h | h <;> cases h)

/-- A list comes into use when a thread of the epoch puts it down. -/
theorem artifact (moves : Compiles service client accepting rules x state stage m) :
    m.shared.slot.artifact = x.slot.artifact ∨
      ∃ f a, stage = .answered f (.ok a) ∧ f.epoch = x.epoch ∧
        m.shared.slot.artifact = some a := by
  cases moves with
  | skip =>
    left
    unfold SharedSlot.skip
    split <;> rfl
  | @record f answer =>
    unfold SharedSlot.record Cell.land
    split
    · rename_i current
      cases answer with
      | ok a => exact .inr ⟨f, a, rfl, current.symm, rfl⟩
      | error r => exact .inl rfl
    · exact .inl rfl
  | _ => exact .inl rfl

/-- Only what is outdated is reported as discarded. -/
theorem summary? (moves : Compiles service client accepting rules x state stage m) {ticket : Nat}
    {summary : Summary} (next : m.stage.summary? = some (ticket, summary)) :
    stage.summary? = some (ticket, summary) ∨
      summary.client = client ∧ (summary.discarded = true →
        ∃ f, stage.flight? = some f ∧ f.ticket = ticket ∧ f.epoch ≠ x.epoch) := by
  cases moves with
  | skip =>
    cases next
    exact .inr ⟨rfl, fun discarded => (by cases discarded)⟩
  | @record f answer =>
    cases answer with
    | ok a =>
      cases next
      refine .inr ⟨rfl, fun discarded => ⟨f, rfl, rfl, fun same => ?_⟩⟩
      have current : x.cell.epoch = f.epoch := same.symm
      simp [current] at discarded
    | error r => cases next
  | @unlock _ outcome =>
    left
    cases outcome <;> exact next
  | _ => cases next

theorem tickets_of_epoch? (moves : Compiles service client accepting rules x state stage m)
    {epoch : Nat} (began : m.stage.epoch? = some epoch) : m.stage.tickets = stage.tickets := by
  cases moves with
  | start | lack | load | call | answer => rfl
  | _ => cases began

theorem answered (moves : Compiles service client accepting rules x state stage m) {f : Flight}
    {answer : Except Report Artifact} (next : m.stage = .answered f answer) :
    ∃ state, (service.compile (listIdentifier client) f.conversion.document state).1 = answer := by
  cases moves with
  | answer answered =>
    cases next
    exact ⟨state, congrArg Prod.fst answered⟩
  | lack | load | call | skip | start | lock | record | unlock => cases next
  | complete | take | finish | hand | refuse | tell => cases next

theorem told (moves : Compiles service client accepting rules x state stage m) {ticket : Nat}
    {summary : Summary} (told : .complete ticket (.ok summary) ∈ m.told.toList) :
    stage.summary? = some (ticket, summary) := by
  cases moves with
  | @complete ticket outcome =>
    cases List.mem_singleton.1 told
    rfl
  | tell | answer => cases List.mem_singleton.1 told
  | _ => cases told

end Compiles

end Moves

namespace Threads

variable {s : Threads σ} {service : Service σ} {client : String}

/-! ## Slots -/

/-- What is known of a list changes when its client is discarded, or by a step of a thread that
compiles. -/
theorem Sound.slotAt_after (h : s.Sound) (service : Service σ) (a : Action σ) (i : Nat) :
    (((s.after service a).slotAt i).slot = (s.slotAt i).slot ∧
        ((s.after service a).slotAt i).epoch = (s.slotAt i).epoch) ∨
      (∃ who, a = .discard who ∧ s.table.get? who = some i ∧
        (s.after service a).slotAt i = (s.slotAt i).discarded) ∨
      ∃ k t m, a = .compile k ∧ s.compilers[k]? = some t ∧ t.slot = i ∧
        Compiles service t.client s.accepting (s.rulesOf t.client) (s.slotAt i) s.service
          t.stage m ∧
        (s.after service a).slotAt i = m.shared := by
  cases a with
  | change | alter | shutdown => exact .inl ⟨rfl, rfl⟩
  | submit who =>
    obtain ⟨fit, there⟩ := h.opened who
    have same : (s.opened who).2.slotAt i = s.slotAt i := by
      unfold Threads.opened
      split
      · rfl
      · rw [slotAt_addSlot]
    have put (next : Threads σ) (x : SharedSlot)
        (slots : next.slots = (s.opened who).2.slots.set (s.opened who).1 x)
        (kept : x.slot = ((s.opened who).2.slotAt (s.opened who).1).slot ∧
          x.epoch = ((s.opened who).2.slotAt (s.opened who).1).epoch) :
        (next.slotAt i).slot = (s.slotAt i).slot ∧ (next.slotAt i).epoch = (s.slotAt i).epoch := by
      rw [slotAt, slots, slotAt_set _ _ (fit.table there), ← same]
      split
      · rename_i here
        rwa [← here]
      · exact ⟨rfl, rfl⟩
    left
    change (((s.opened who).2.ask who (s.opened who).1).2.slotAt i).slot = _ ∧
      (((s.opened who).2.ask who (s.opened who).1).2.slotAt i).epoch = _
    rcases (s.opened who).2.ask_cases who (s.opened who).1 with ⟨_, -, eq⟩ | ⟨-, -, eq⟩ |
      ⟨-, -, eq⟩ <;> rw [eq] <;> exact put _ _ rfl ⟨rfl, rfl⟩
  | discard who =>
    have eq : s.after service (.discard who) = s.discard who := rfl
    rw [eq]
    cases there : s.table.get? who with
    | none => exact .inl (by rw [Threads.discard, there]; exact ⟨rfl, rfl⟩)
    | some j =>
      have slot : (s.discard who).slotAt i =
          if j = i then (s.slotAt j).discarded else s.slotAt i := by
        rw [Threads.discard, there]
        exact slotAt_put s j (h.table there) i
      rw [slot]
      by_cases here : j = i
      · subst here
        exact .inr (.inl ⟨who, rfl, there, if_pos rfl⟩)
      · rw [if_neg here]
        exact .inl ⟨rfl, rfl⟩
  | pick =>
    have same := s.slotAt_pick i
    exact .inl ⟨congrArg SharedSlot.slot same, congrArg SharedSlot.epoch same⟩
  | compile k =>
    rcases s.compile_cases service k with same | ⟨t, m, found, moves, eq⟩
    · exact .inl (by rw [Threads.after, same]; exact ⟨rfl, rfl⟩)
    · have slot : (s.compile service k).slotAt i =
          if t.slot = i then m.shared else s.slotAt i := by
        rw [eq]
        exact slotAt_moved (s.atStage k t m.stage) t.client m
          (h.compiler (List.mem_of_getElem? found)).1 i
      by_cases here : t.slot = i
      · subst here
        exact .inr (.inr ⟨k, t, m, rfl, found, rfl, moves, slot.trans (if_pos rfl)⟩)
      · rw [Threads.after, slot, if_neg here]
        exact .inl ⟨rfl, rfl⟩
  | remove k =>
    rcases s.remove_cases service k with same | ⟨r, m, found, moves, eq⟩
    · exact .inl (by rw [Threads.after, same]; exact ⟨rfl, rfl⟩)
    · have slot : (s.remove service k).slotAt i =
          if r.slot = i then m.shared else s.slotAt i := by
        rw [eq]
        exact slotAt_moved (s.removerAtStage k r m.stage) r.client m
          (h.remover (List.mem_of_getElem? found)).1 i
      rw [Threads.after, slot, moves.shared.1]
      split
      · rename_i here
        exact .inl (here ▸ ⟨rfl, rfl⟩)
      · exact .inl ⟨rfl, rfl⟩

/-- The epoch of a slot ends when its client is discarded, and at no other time. -/
theorem Sound.epoch_after (h : s.Sound) (service : Service σ) (a : Action σ) (i : Nat) :
    ((s.after service a).slotAt i).epoch = (s.slotAt i).epoch ∨
      ∃ who, a = .discard who ∧ s.table.get? who = some i ∧
        ((s.after service a).slotAt i).epoch = (s.slotAt i).epoch + 1 := by
  rcases h.slotAt_after service a i with ⟨-, same⟩ | ⟨who, rfl, there, eq⟩ |
    ⟨k, t, m, -, -, -, moves, eq⟩
  · exact .inl same
  · exact .inr ⟨who, rfl, there, congrArg SharedSlot.epoch eq⟩
  · exact .inl (by rw [eq, moves.epoch])

theorem Sound.epoch_le_after (h : s.Sound) (service : Service σ) (a : Action σ) (i : Nat) :
    (s.slotAt i).epoch ≤ ((s.after service a).slotAt i).epoch := by
  rcases h.epoch_after service a i with same | ⟨-, -, -, next⟩
  · exact Nat.le_of_eq same.symm
  · exact Nat.le_of_lt (next ▸ Nat.lt_succ_self _)

/-! ## Compilations that are outdated -/

/-- What the thread has begun is of an earlier epoch than its slot. -/
def Outdated (k : Nat) (s : Threads σ) : Prop :=
  ∃ t, s.compilers[k]? = some t ∧ (t.stage.hasBegun = true ∨ t.stage.hasLeft = true) ∧
    ∀ epoch, t.stage.epoch? = some epoch → epoch < (s.slotAt t.slot).epoch

theorem Outdated.after {k : Nat} (sound : s.Sound) (h : s.Outdated k) (a : Action σ) :
    (s.after service a).Outdated k := by
  obtain ⟨t, found, begun, earlier⟩ := h
  have grows := sound.epoch_le_after service a t.slot
  rcases getElem?_compilers_after service found a with
    stays | ⟨rfl, m, moves, eq⟩
  · exact ⟨t, stays, begun, fun epoch began => Nat.lt_of_lt_of_le (earlier epoch began) grows⟩
  · refine ⟨{ t with stage := m.stage }, ?_, moves.begun_or_left begun, fun epoch began => ?_⟩
    · rw [eq, getElem?_turned _ _ _ found]
    · rcases moves.epoch? began with before | ⟨⟨ticket, locked⟩, -⟩
      · exact Nat.lt_of_lt_of_le (earlier epoch before) grows
      · rw [locked] at begun
        rcases begun with begun | begun <;> cases begun

/-- Nobody is of a later epoch than the slot. -/
def Timely (s : Threads σ) : Prop :=
  ∀ (k : Nat) (t : Thread) (epoch : Nat), s.compilers[k]? = some t →
    t.stage.epoch? = some epoch → epoch ≤ (s.slotAt t.slot).epoch

theorem Timely.after (sound : s.Sound) (h : s.Timely) (a : Action σ) :
    (s.after service a).Timely := by
  intro k u epoch there began
  have grows := sound.epoch_le_after service a u.slot
  rcases getElem?_of_after service a there with
    before | ⟨-, first⟩ | ⟨t, m, rfl, found, rfl, moves⟩
  · exact Nat.le_trans (h k u epoch before began) grows
  · rw [(Stage.of_isFirst first).1] at began
    cases began
  · rcases moves.epoch? began with before | ⟨-, rfl⟩
    · exact Nat.le_trans (h k t epoch found before) grows
    · exact grows

theorem timely_replay (service : Service σ) (workers : Nat) (limits : Limits) (state : σ)
    (actions : List (Action σ)) : ((fresh workers limits state).replay service actions).Timely :=
  (sound_fresh workers limits state).replay_preserves (P := Timely)
    (fun _ a sound h => h.after sound a) (fun _ _ _ found => (by cases found)) actions

theorem slotAt_discard (s : Threads σ) {i : Nat} (here : i < s.slots.length)
    (there : s.table.get? client = some i) :
    (s.discard client).slotAt i = (s.slotAt i).discarded := by
  rw [discard, there]
  exact (slotAt_put s i here i).trans (if_pos rfl)

/-- A discard makes outdated what was begun for its client. -/
theorem Timely.outdated_discard (sound : s.Sound) (h : s.Timely) {k : Nat} {t : Thread}
    (found : s.compilers[k]? = some t) (begun : t.stage.hasBegun = true) :
    (s.discard t.client).Outdated k := by
  refine ⟨t, by rw [discard_compilers, found], .inl begun, fun epoch began => ?_⟩
  have there := sound.home (List.mem_of_getElem? found) (Stage.carries_of_epoch? began)
  rw [slotAt_discard s (sound.table there) there]
  exact Nat.lt_succ_of_le (h k t epoch found began)

/-! ## Lists in use -/

/-- A client keeps its slot, or is given a new one. -/
theorem Sound.get?_of_after (h : s.Sound) {a : Action σ} {i : Nat}
    (there : (s.after service a).table.get? client = some i) :
    s.table.get? client = some i ∨ a = .submit client ∧ i = s.slots.length := by
  cases a with
  | change | alter | shutdown => exact .inl there
  | submit who =>
    change ((s.opened who).2.ask who (s.opened who).1).2.table.get? client = _ at there
    rw [ask_table] at there
    unfold Threads.opened at there
    split at there
    · exact .inl there
    · rw [get?_addSlot] at there
      split at there
      · rename_i same
        exact .inr ⟨same ▸ rfl, (Option.some.inj there).symm⟩
      · exact .inl there
  | discard who =>
    rw [Threads.after, discard_table] at there
    exact .inl there
  | pick =>
    rw [Threads.after, pick_table] at there
    exact .inl there
  | compile k =>
    change (s.compile service k).table.get? client = _ at there
    rcases s.compile_cases service k with same | ⟨t, m, found, moves, eq⟩
    · exact .inl (same ▸ there)
    · have here := (h.compiler (List.mem_of_getElem? found)).1
      rw [eq, get?_moved (s.atStage k t m.stage) _ _ here] at there
      split at there
      · cases there
      · exact .inl there
  | remove k =>
    change (s.remove service k).table.get? client = _ at there
    rcases s.remove_cases service k with same | ⟨r, m, found, moves, eq⟩
    · exact .inl (same ▸ there)
    · have here := (h.remover (List.mem_of_getElem? found)).1
      rw [eq, get?_moved (s.removerAtStage k r m.stage) _ _ here] at there
      split at there
      · cases there
      · exact .inl there

theorem slotOf_eq {i : Nat} (there : s.table.get? client = some i) :
    s.slotOf client = (s.slotAt i).slot := by
  rw [slotOf, there]
  rfl

/-- A list that is in use was so before, or a thread of the epoch has put it down. -/
theorem Sound.artifact_of_after (h : s.Sound) {a : Action σ} {list : Artifact}
    (used : ((s.after service a).slotOf client).artifact = some list) :
    (s.slotOf client).artifact = some list ∨
      ∃ k t f, a = .compile k ∧ s.compilers[k]? = some t ∧ t.client = client ∧
        t.stage = .answered f (.ok list) ∧ f.epoch = (s.slotAt t.slot).epoch := by
  cases there : (s.after service a).table.get? client with
  | none =>
    rw [slotOf, there] at used
    cases used
  | some i =>
    rw [slotOf_eq there] at used
    have slot := h.slotAt_after service a i
    rcases h.get?_of_after there with before | ⟨rfl, rfl⟩
    · rw [slotOf_eq before]
      rcases slot with ⟨same, -⟩ | ⟨who, rfl, -, eq⟩ | ⟨k, t, m, rfl, found, rfl, moves, eq⟩
      · exact .inl (same ▸ used)
      · rw [eq] at used
        cases used
      · rw [eq] at used
        rcases moves.artifact with same | ⟨f, put, stage, current, eq⟩
        · exact .inl (same ▸ used)
        · obtain rfl : put = list := Option.some.inj (eq.symm.trans used)
          have mine := (h.compiler (List.mem_of_getElem? found)).2 client before
          exact .inr ⟨k, t, f, rfl, found, mine.symm, stage, current⟩
    · rcases slot with ⟨same, -⟩ | ⟨who, eq, -⟩ | ⟨k, t, m, eq, -⟩
      · rw [same, s.slotAt_of_le (Nat.le_refl _)] at used
        cases used
      · cases eq
      · cases eq

/-- A thread goes on with the compilation that it began. -/
theorem getElem?_replay {k : Nat} {t : Thread} (service : Service σ)
    (found : s.compilers[k]? = some t) (actions : List (Action σ)) :
    ∃ stage, (s.replay service actions).compilers[k]? = some { t with stage } := by
  refine replay_preserves (P := fun s => ∃ stage, s.compilers[k]? = some { t with stage }) ?_
    ⟨t.stage, found⟩ actions
  rintro s a ⟨stage, found⟩
  rcases getElem?_compilers_after service found a with stays | ⟨rfl, m, -, eq⟩
  · exact ⟨stage, stays⟩
  · exact ⟨m.stage, by rw [eq, getElem?_turned _ _ _ found]⟩

theorem replay_concat (s : Threads σ) (service : Service σ) (actions : List (Action σ))
    (a : Action σ) :
    s.replay service (actions ++ [a]) = (s.replay service actions).after service a :=
  s.replay_append service actions [a]

theorem Outdated.replay {k : Nat} (sound : s.Sound) (h : s.Outdated k) (service : Service σ)
    (actions : List (Action σ)) : (s.replay service actions).Outdated k :=
  sound.replay_preserves (P := fun s => s.Outdated k) (fun _ a sound h => h.after sound a) h actions

/-- The thread has not begun its compilation. -/
def IsNew (s : Threads σ) (k : Nat) : Prop :=
  ∀ t, s.compilers[k]? = some t → t.stage.hasBegun = false

/-- What is in use after a discard was put down by a thread that had not begun before it. -/
theorem Sound.put_down (h : s.Sound) (timely : s.Timely) {later : List (Action σ)}
    {list : Artifact}
    (used : (((s.discard client).replay service later).slotOf client).artifact = some list) :
    ∃ first k rest t f, later = first ++ .compile k :: rest ∧ s.IsNew k ∧
      ((s.discard client).replay service first).compilers[k]? = some t ∧ t.client = client ∧
      t.stage = .answered f (.ok list) := by
  have sound : (s.discard client).Sound := h.discard client
  induction later using List.reverseRecOn generalizing list with
  | nil =>
    -- the discard has emptied the slot
    change ((s.discard client).slotOf client).artifact = some list at used
    have table : (s.discard client).table.get? client = s.table.get? client := by
      rw [discard_table]
    cases there : s.table.get? client with
    | none =>
      rw [slotOf, table, there] at used
      cases used
    | some i =>
      rw [slotOf_eq (table.trans there), slotAt_discard s (h.table there) there] at used
      cases used
  | append_singleton later a ih =>
    rw [replay_concat] at used
    rcases (sound.replay later).artifact_of_after used with
      before | ⟨k, t, f, rfl, found, mine, stage, current⟩
    · obtain ⟨first, k, rest, t, f, rfl, rest_of⟩ := ih before
      exact ⟨first, k, rest ++ [a], t, f, by simp, rest_of⟩
    · refine ⟨later, k, [], t, f, rfl, fun u before => ?_, found, mine, stage⟩
      by_contra begun
      have begun : u.stage.hasBegun = true := by simpa using begun
      -- what was begun before the discard is of an earlier epoch than its slot
      obtain ⟨next, same⟩ := getElem?_replay (s := s.discard client) service
        (by rw [discard_compilers, before]) later
      obtain rfl : t = { u with stage := next } := Option.some.inj (found.symm.trans same)
      obtain rfl : u.client = client := mine
      obtain ⟨v, there, -, earlier⟩ :=
        (timely.outdated_discard h before begun).replay sound service later
      obtain rfl : { u with stage := next } = v := Option.some.inj (found.symm.trans there)
      have older := earlier f.epoch (congrArg Stage.epoch? stage)
      exact absurd current (Nat.ne_of_lt older)

end Threads

end ContentBlocker
