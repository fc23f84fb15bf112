import ContentBlocker.Proofs.Threads.Epochs
import ContentBlocker.Proofs.Threads.Exclusion

/-!
# Results of earlier epochs

A compilation that has taken its rules when its client is discarded is late: it leaves the slot as
it is, and is reported as discarded if the service accepts its document, and as failed if not.  One
that begins after the last discard is never reported as discarded.  `no_result_outlives_a_discard`
says so of every run.
-/

namespace ContentBlocker

variable {σ : Type}

namespace Threads

variable {s : Threads σ} {service : Service σ} {client : String}

/-! ## Results that come late -/

/-- How a compilation ends whose client was discarded in the meantime. -/
def lateOutcome (client : String) (f : Flight) : Except Report Artifact → Outcome
  | .ok a => .ok { Summary.ofConversion client f.conversion a with discarded := true }
  | .error r => .error (.compilation client (compilationText r))

/-- The service, in some state, answers the document of a flight like this. -/
def Answers (service : Service σ) (client : String) (f : Flight)
    (answer : Except Report Artifact) : Prop :=
  ∃ state, (service.compile (listIdentifier client) f.conversion.document state).1 = answer

/-- What a thread has as the answer of the service is one. -/
def Genuine (service : Service σ) (s : Threads σ) : Prop :=
  ∀ (k : Nat) (t : Thread) (f : Flight) (answer : Except Report Artifact),
    s.compilers[k]? = some t → t.stage = .answered f answer → Answers service t.client f answer

theorem Genuine.after (h : s.Genuine service) (a : Action σ) :
    (s.after service a).Genuine service := by
  intro k u f answer there stage
  rcases getElem?_of_after service a there with before | ⟨-, first⟩ | ⟨t, m, -, -, rfl, moves⟩
  · exact h k u f answer before stage
  · rw [stage] at first
    cases first
  · exact moves.answered stage

theorem genuine_replay (service : Service σ) (workers : Nat) (limits : Limits) (state : σ)
    (actions : List (Action σ)) :
    ((fresh workers limits state).replay service actions).Genuine service :=
  replay_preserves (P := fun s => s.Genuine service) (fun _ a h => Genuine.after h a)
    (fun _ _ _ _ found => (by cases found)) actions

/-- `Late P client f trace n stage`: a thread that has taken its rules and is outdated has `n` steps
to go until the ticket of its flight is answered, and what the service answers has the property
`P`. -/
inductive Late (P : Except Report Artifact → Prop) (client : String) (f : Flight)
    (trace : List Notice) : Nat → Stage → Prop
  | loaded : Late P client f trace 5 (.loaded f)
  | calling : Late P client f trace 4 (.calling f)
  | answered {answer : Except Report Artifact} (holds : P answer) :
    Late P client f trace 3 (.answered f answer)
  | recorded {answer : Except Report Artifact} (holds : P answer) :
    Late P client f trace 2 (.recorded f.ticket (lateOutcome client f answer))
  | unlocked {answer : Except Report Artifact} (holds : P answer) :
    Late P client f trace 1 (.unlocked f.ticket (lateOutcome client f answer))
  | told {answer : Except Report Artifact} {stage : Stage} (holds : P answer)
    (told : .complete f.ticket (lateOutcome client f answer) ∈ trace) :
    Late P client f trace 0 stage

namespace Late

variable {P : Except Report Artifact → Prop} {f : Flight} {trace : List Notice} {n : Nat}
  {stage : Stage}

theorem mono (late : Late P client f trace n stage) {more : List Notice}
    (kept : ∀ notice ∈ trace, notice ∈ more) : Late P client f more n stage := by
  cases late with
  | told holds told => exact .told holds (kept _ told)
  | _ => constructor <;> assumption

/-- Such a thread does not wait for anybody. -/
theorem moves (late : Late P client f trace (n + 1) stage) (service : Service σ) (state : σ)
    (accepting : Bool) (rules : List Rule) (x : SharedSlot) {t : Thread}
    (at_stage : t.stage = stage) :
    ∃ m, t.move service state accepting rules x = some m := by
  rw [← Option.ne_none_iff_exists', Ne, Thread.move_eq_none, at_stage]
  cases late <;> simp [Stage.isOver]

/-- Each step leaves what is known of the list as it is. -/
theorem step (late : Late P client f trace (n + 1) stage) {state : σ} {accepting : Bool}
    {rules : List Rule} {x : SharedSlot} {m : Move Stage σ} (outdated : f.epoch < x.epoch)
    (calls : n = 3 → ∀ answer, Answers service client f answer → P answer)
    (moves : Compiles service client accepting rules x state stage m) :
    Late P client f (m.told.toList ++ trace) n m.stage ∧ m.shared.slot = x.slot ∧
      m.ends = false := by
  have ne : x.cell.epoch ≠ f.epoch := Nat.ne_of_gt outdated
  cases late with
  | loaded =>
    cases moves with
    | call => exact ⟨.calling, rfl, rfl⟩
  | calling =>
    cases moves with
    | answer answered =>
      exact ⟨.answered (calls rfl _ ⟨state, congrArg Prod.fst answered⟩), rfl, rfl⟩
  | @answered answer holds =>
    cases moves with
    | record =>
      have outcome : x.cell.outcome client f answer = lateOutcome client f answer := by
        cases answer <;> simp [Cell.outcome, lateOutcome, ne]
      refine ⟨outcome ▸ .recorded holds, ?_, rfl⟩
      simp [SharedSlot.record, Cell.land, ne]
      rfl
  | recorded holds =>
    cases moves with
    | unlock => exact ⟨.unlocked holds, rfl, rfl⟩
  | unlocked holds =>
    cases moves with
    | complete => exact ⟨.told holds List.mem_cons_self, rfl, rfl⟩

end Late

/-- The thread is late, with so many steps to go. -/
structure IsLate (P : Except Report Artifact → Prop) (client : String) (f : Flight) (k n : Nat)
    (s : Threads σ) (t : Thread) : Prop where
  found : s.compilers[k]? = some t
  mine : t.client = client
  outdated : f.epoch < (s.slotAt t.slot).epoch
  late : Late P client f s.trace n t.stage

theorem mem_trace_after (s : Threads σ) (service : Service σ) (a : Action σ) {notice : Notice}
    (told : notice ∈ s.trace) : notice ∈ (s.after service a).trace := by
  rcases s.trace_after service a with eq | ⟨_, _, _, -, -, -, eq⟩ | ⟨_, _, _, -, -, -, eq⟩ <;>
    rw [eq]
  · exact told
  · exact List.mem_append_right _ told
  · exact List.mem_append_right _ told

section Runs

variable {P : Except Report Artifact → Prop} {f : Flight} {k n : Nat} {t : Thread}

theorem IsLate.turn (sound : s.Sound) (h : IsLate P client f k (n + 1) s t) (service : Service σ)
    (calls : n = 3 → ∀ answer, Answers service client f answer → P answer) :
    (∃ u, IsLate P client f k n (s.after service (.compile k)) u) ∧
      ∀ other, (s.compile service k).slotOf other = s.slotOf other := by
  obtain ⟨found, rfl, outdated, late⟩ := h
  have grows := sound.epoch_le_after service (.compile k) t.slot
  have here := (sound.compiler (List.mem_of_getElem? found)).1
  obtain ⟨m, moves⟩ := late.moves service s.service s.accepting (s.rulesOf t.client)
    (s.slotAt t.slot) (t := t) rfl
  have moves := Thread.move_eq_some.1 moves
  have eq := s.compile_of_moves service found moves
  obtain ⟨late, slot, ends⟩ := late.step outdated calls moves
  constructor
  · refine ⟨{ t with stage := m.stage }, ?_, rfl, Nat.lt_of_lt_of_le outdated grows, ?_⟩
    · rw [after, eq, getElem?_turned _ _ _ found]
    · rw [after, eq, moved_trace]
      exact late
  · intro other
    rw [eq, slotOf, get?_moved (s.atStage k t m.stage) _ _ here, if_neg (by simp [ends])]
    change _ = ((s.table.get? other).map fun i => (s.slotAt i).slot).getD .empty
    have same (i : Nat) : (((s.atStage k t m.stage).moved t.client t.slot m).slotAt i).slot =
        (s.slotAt i).slot := by
      rw [slotAt_moved (s.atStage k t m.stage) _ _ here]
      split
      · rename_i mine
        rw [slot, mine]
      · rfl
    simp only [same]
    rfl

theorem IsLate.after (sound : s.Sound) (h : IsLate P client f k n s t) (service : Service σ)
    (calls : n = 4 → ∀ answer, Answers service client f answer → P answer) (a : Action σ) :
    ∃ n' ≤ n, ∃ u, IsLate P client f k n' (s.after service a) u := by
  have grows := sound.epoch_le_after service a t.slot
  have told : ∀ notice ∈ s.trace, notice ∈ (s.after service a).trace := fun _ mem =>
    s.mem_trace_after service a mem
  rcases getElem?_compilers_after service h.found a with stays | ⟨rfl, m, moves, eq⟩
  · exact ⟨n, Nat.le_refl _, t, stays, h.mine, Nat.lt_of_lt_of_le h.outdated grows,
      h.late.mono told⟩
  · cases n with
    | zero =>
      refine ⟨0, Nat.le_refl _, { t with stage := m.stage }, ?_, h.mine,
        Nat.lt_of_lt_of_le h.outdated grows, ?_⟩
      · rw [eq, getElem?_turned _ _ _ h.found]
      · cases h.late with
        | told holds mem => exact .told holds (told _ mem)
    | succ n =>
      have calls : n = 3 → ∀ answer, Answers service client f answer → P answer :=
        fun three => calls (by omega)
      exact ⟨n, Nat.le_succ n, (h.turn sound service calls).1⟩

theorem IsLate.replay (sound : s.Sound) (h : IsLate P client f k n s t)
    (calls : 4 ≤ n → ∀ answer, Answers service client f answer → P answer)
    (actions : List (Action σ)) :
    ∃ n' ≤ n, ∃ u, IsLate P client f k n' (s.replay service actions) u := by
  refine sound.replay_preserves (P := fun s => ∃ n' ≤ n, ∃ u, IsLate P client f k n' s u) ?_
    ⟨n, Nat.le_refl _, t, h⟩ actions
  rintro s a sound ⟨n', le, u, h⟩
  obtain ⟨n'', less, late⟩ := h.after sound service (fun four => calls (by omega)) a
  exact ⟨n'', Nat.le_trans less le, late⟩

/-- As many turns as there are steps to go lead to the answer. -/
theorem IsLate.told (sound : s.Sound) (h : IsLate P client f k n s t) (service : Service σ)
    (calls : 4 ≤ n → ∀ answer, Answers service client f answer → P answer) {turns : Nat}
    (enough : n ≤ turns) :
    ∃ answer, P answer ∧ .complete f.ticket (lateOutcome client f answer) ∈
      (s.replay service (List.replicate turns (.compile k))).trace := by
  induction turns generalizing s n t with
  | zero =>
    obtain rfl : n = 0 := Nat.le_zero.1 enough
    cases h.late with
    | told holds mem => exact ⟨_, holds, mem⟩
  | succ turns ih =>
    rw [List.replicate_succ]
    cases n with
    | zero =>
      obtain ⟨n', le, u, late⟩ := h.after sound service (fun four => (by cases four))
        (.compile k)
      exact ih (sound.after _) late (fun four => absurd (Nat.le_trans four le) (by omega))
        (Nat.le_trans le (Nat.zero_le _))
    | succ n =>
      obtain ⟨u, late⟩ := (h.turn sound service (fun three => calls (by omega))).1
      exact ih (sound.after _) late (fun four => calls (by omega)) (Nat.le_of_succ_le_succ enough)

end Runs

/-- A thread that has taken its rules is late after a discard of its client. -/
theorem Sound.isLate_discard (h : s.Sound) (timely : s.Timely) (genuine : s.Genuine service)
    {k : Nat} {t : Thread} {f : Flight} (found : s.compilers[k]? = some t)
    (taken : t.stage.flight? = some f) :
    ∃ n ≤ 5, IsLate (Answers service t.client f) t.client f k n (s.discard t.client) t := by
  have began : t.stage.epoch? = some f.epoch := by
    cases stage : t.stage <;> rw [stage] at taken <;> cases taken <;> rfl
  have there := h.home (List.mem_of_getElem? found) (Stage.carries_of_epoch? began)
  have late (n : Nat)
      (late : Late (Answers service t.client f) t.client f (s.discard t.client).trace n t.stage) :
      IsLate (Answers service t.client f) t.client f k n (s.discard t.client) t := by
    refine ⟨by rw [discard_compilers, found], rfl, ?_, late⟩
    rw [slotAt_discard s (h.table there) there]
    exact Nat.lt_succ_of_le (timely k t f.epoch found began)
  cases stage : t.stage <;> rw [stage] at taken <;> cases taken
  · exact ⟨5, Nat.le_refl _, late 5 (stage ▸ .loaded)⟩
  · exact ⟨4, by omega, late 4 (stage ▸ .calling)⟩
  · exact ⟨3, by omega, late 3 (stage ▸ .answered (genuine k t f _ found stage))⟩

/-! ## Results in time -/

/-- The compilation of a ticket has begun. -/
def HasBegun (s : Threads σ) (ticket : Nat) : Prop :=
  (s.outcome? ticket).isSome = true ∨
    ∃ t ∈ s.compilers, t.stage.hasBegun = true ∧ ticket ∈ t.stage.tickets

/-- What is not old is of the epoch of its slot, and is not reported as discarded. -/
structure Undisturbed (client : String) (old : Nat → Prop) (s : Threads σ) : Prop where
  current : ∀ {k : Nat} {t : Thread} {epoch : Nat}, s.compilers[k]? = some t → t.client = client →
    t.stage.epoch? = some epoch → (∀ ticket ∈ t.stage.tickets, ¬ old ticket) →
    epoch = (s.slotAt t.slot).epoch
  ready : ∀ {k : Nat} {t : Thread} {ticket : Nat} {summary : Summary}, s.compilers[k]? = some t →
    t.stage.summary? = some (ticket, summary) → ¬ old ticket → summary.client = client →
    summary.discarded = false
  told : ∀ {ticket : Nat} {summary : Summary}, .complete ticket (.ok summary) ∈ s.trace →
    ¬ old ticket → summary.client = client → summary.discarded = false

theorem Undisturbed.after {old : Nat → Prop} (sound : s.Sound) (h : s.Undisturbed client old)
    (a : Action σ) (kept : ∀ who, a = .discard who → who ≠ client) :
    (s.after service a).Undisturbed client old := by
  refine ⟨?_, ?_, ?_⟩
  · intro k u epoch there mine began new
    rcases getElem?_of_after service a there with
      before | ⟨-, first⟩ | ⟨t, m, rfl, found, rfl, moves⟩
    · rw [h.current before mine began new]
      rcases sound.epoch_after service a u.slot with same | ⟨who, eq, theirs, -⟩
      · exact same.symm
      · have refers := sound.compiler (List.mem_of_getElem? before)
        exact absurd ((refers.2 who theirs).trans mine) (kept who eq)
    · rw [(Stage.of_isFirst first).1] at began
      cases began
    · have same : ((s.after service (.compile k)).slotAt t.slot).epoch =
          (s.slotAt t.slot).epoch := by
        rcases sound.epoch_after service (.compile k) t.slot with same | ⟨_, eq, -⟩
        · exact same
        · cases eq
      rw [moves.tickets_of_epoch? began] at new
      rw [same]
      rcases moves.epoch? began with before | ⟨-, current⟩
      · exact h.current found mine before new
      · exact current
  · intro k u ticket summary there next new mine
    rcases getElem?_of_after service a there with
      before | ⟨-, first⟩ | ⟨t, m, rfl, found, rfl, moves⟩
    · exact h.ready before next new mine
    · rw [(Stage.of_isFirst first).2] at next
      cases next
    · rcases moves.summary? next with before | ⟨own, discarded⟩
      · exact h.ready found before new mine
      · by_contra reported
        obtain ⟨f, taken, rfl, outdated⟩ := discarded (by simpa using reported)
        have began : t.stage.epoch? = some f.epoch ∧ t.stage.tickets = [f.ticket] := by
          cases stage : t.stage <;> rw [stage] at taken <;> cases taken <;> exact ⟨rfl, rfl⟩
        refine outdated (h.current found (own.symm.trans mine) began.1 ?_)
        rw [began.2]
        exact fun ticket mem => List.mem_singleton.1 mem ▸ new
  · intro ticket summary told new mine
    rcases s.trace_after service a with eq | ⟨k, t, m, -, found, moves, eq⟩ |
      ⟨k, r, m, -, -, moves, eq⟩ <;> rw [eq] at told
    · exact h.told told new mine
    · rcases List.mem_append.1 told with now | before
      · exact h.ready found (moves.told now) new mine
      · exact h.told before new mine
    · rcases List.mem_append.1 told with now | before
      · have answered := mem_answered.2 ⟨_, now⟩
        rw [moves.answered] at answered
        cases answered
      · exact h.told before new mine

/-- What has not begun is not disturbed. -/
theorem Kept.undisturbed (h : s.Kept) (client : String) : s.Undisturbed client s.HasBegun where
  current {k t epoch} found _ began new := by
    obtain ⟨begun, ticket, tickets⟩ := Stage.of_epoch? began
    exact absurd (.inr ⟨t, List.mem_of_getElem? found, begun, by simp [tickets]⟩)
      (new ticket (by simp [tickets]))
  ready {k t ticket summary} found next new := by
    obtain ⟨begun, tickets⟩ := Stage.of_summary? next
    exact absurd (.inr ⟨t, List.mem_of_getElem? found, begun, by simp [tickets]⟩) new
  told told new :=
    absurd (.inl (Option.isSome_of_eq_some ((outcome?_eq_some h).2 told))) new

/-- As long as the client is not discarded, nothing of it is disturbed. -/
theorem Sound.undisturbed_replay (h : s.Sound) (kept : s.Kept) (service : Service σ)
    {actions : List (Action σ)} (apart : .discard client ∉ actions) :
    (s.replay service actions).Undisturbed client s.HasBegun := by
  induction actions using List.reverseRecOn with
  | nil => exact kept.undisturbed client
  | append_singleton actions a ih =>
    rw [replay_concat]
    refine (ih fun mem => apart (List.mem_append_left _ mem)).after (h.replay actions) a ?_
    rintro who rfl rfl
    exact apart (List.mem_append_right _ List.mem_cons_self)

/-! ## Runs -/

/-- After a discard each list in use was put down by a thread that began its compilation later.  A
compilation that has taken its rules when its client is discarded, and has not put down what the
service answered, is reported as discarded, or as failed, and leaves all slots as they are.  A
compilation that begins after the last discard is not reported as discarded. -/
theorem no_result_outlives_a_discard (service : Service σ) (workers : Nat) (limits : Limits)
    (state : σ) (before later : List (Action σ)) (client : String) :
    let s := (fresh workers limits state).replay service before
    let run := fun actions => s.replay service (.discard client :: actions)
    (∀ list, ((run later).slotOf client).artifact = some list →
      ∃ first k rest t f, later = first ++ .compile k :: rest ∧ s.IsNew k ∧
        (run first).compilers[k]? = some t ∧ t.client = client ∧
        t.stage = .answered f (.ok list)) ∧
      (∀ (k : Nat) (t : Thread) (f : Flight), s.compilers[k]? = some t → t.client = client →
        t.stage.flight? = some f →
        (∃ answer, Answers service client f answer ∧
          ((run later).replay service (List.replicate 5 (.compile k))).outcome? f.ticket =
            some (lateOutcome client f answer)) ∧
        (∀ (u : Thread) answer, (run later).compilers[k]? = some u →
          u.stage = .answered f answer →
          ((run later).replay service (List.replicate 3 (.compile k))).outcome? f.ticket =
            some (lateOutcome client f answer)) ∧
        ((run later).outcome? f.ticket = none →
          ∀ other, ((run later).compile service k).slotOf other = (run later).slotOf other)) ∧
      (.discard client ∉ later → ∀ ticket summary, ¬ s.HasBegun ticket →
        (s.replay service later).outcome? ticket = some (.ok summary) →
        summary.client = client → summary.discarded = false) := by
  intro s run
  have sound : s.Sound := sound_replay service workers limits state before
  have timely : s.Timely := timely_replay service workers limits state before
  have genuine : s.Genuine service := genuine_replay service workers limits state before
  have kept (more : List (Action σ)) : (s.replay service more).Kept := by
    have all := kept_replay service workers limits state (before ++ more)
    rwa [replay_append] at all
  refine ⟨fun list => sound.put_down timely, ?_, ?_⟩
  · rintro k t f found rfl taken
    have discarded : (s.discard t.client).Sound := sound.discard t.client
    have running : (run later).Sound := discarded.replay later
    have told (turns : Nat) {outcome : Outcome}
        (told : .complete f.ticket outcome ∈
          ((run later).replay service (List.replicate turns (.compile k))).trace) :
        ((run later).replay service (List.replicate turns (.compile k))).outcome? f.ticket =
          some outcome := by
      refine (outcome?_eq_some ?_).2 told
      have all := kept (.discard t.client :: later ++ List.replicate turns (.compile k))
      rwa [replay_append] at all
    obtain ⟨n, le, late⟩ := sound.isLate_discard timely genuine found taken
    obtain ⟨n, less, u, late⟩ := late.replay discarded (fun _ _ gives => gives) later
    refine ⟨?_, ?_, ?_⟩
    · obtain ⟨answer, gives, mem⟩ := late.told running service (fun _ _ gives => gives)
        (Nat.le_trans less le)
      exact ⟨answer, gives, told 5 mem⟩
    · intro v answer there stage
      obtain rfl : u = v := Option.some.inj (late.found.symm.trans there)
      have back : IsLate (· = answer) t.client f k 3 (run later) u :=
        ⟨late.found, late.mine, late.outdated, stage ▸ .answered rfl⟩
      obtain ⟨_, rfl, mem⟩ := back.told running service (fun four => absurd four (by omega))
        (Nat.le_refl 3)
      exact told 3 mem
    · intro unanswered other
      cases n with
      | zero =>
        cases late.late with
        | told _ mem =>
          have answered := told 0 mem
          rw [List.replicate_zero] at answered
          cases unanswered.symm.trans answered
      | succ n => exact (late.turn running service fun _ _ gives => gives).2 other
  · intro undiscarded ticket summary new answered mine
    have undisturbed := sound.undisturbed_replay (kept []) service undiscarded
    exact undisturbed.told (told_of_findSome? answered) new mine

/-- A list that is compiled while its client is discarded is reported as discarded. -/
theorem late_list_is_discarded :
    let s := (fresh 1 .standard ()).replay .lenient (firstCall "e")
    let last := (s.replay .lenient [.discard "e"]).replay .lenient (List.replicate 5 (.compile 1))
    (∃ f summary, (s.compilers[1]?.bind fun t => t.stage.flight?) = some f ∧
      last.outcome? f.ticket = some (.ok summary) ∧ summary.discarded = true) ∧
      (last.slotOf "e").artifact = none := by
  intro s last
  have taken : (s.compilers[1]?.map fun t => (t.client, t.stage.flight?.isSome)) =
      some ("e", true) := by decide +kernel
  obtain ⟨t, found, at_stage⟩ := Option.map_eq_some_iff.1 taken
  obtain ⟨client, flies⟩ := Prod.mk.inj at_stage
  obtain ⟨f, flight⟩ := Option.isSome_iff_exists.1 flies
  obtain ⟨-, late, -⟩ := no_result_outlives_a_discard .lenient 1 .standard ()
    (firstCall "e") [] "e"
  obtain ⟨answer, ⟨state, gives⟩, answered⟩ := (late 1 t f found client flight).1
  subst gives
  exact ⟨⟨f, _, by rw [found]; exact flight, answered, rfl⟩, by decide +kernel⟩

/-- Whether a compilation is reported as discarded depends on its epoch.  One that has begun and
takes its rules after the discard is reported as discarded; one that had taken its rules before, and
was over, is not. -/
theorem epoch_decides_report :
    let start := (fresh 1 .standard ()).replay .lenient
      [addRule "e" 1, .submit "e", .compile 0, .pick, .compile 1, .compile 1]
    let turns : List (Action Unit) := List.replicate 6 (.compile 1)
    let after := start.replay .lenient (.discard "e" :: turns)
    let before := start.replay .lenient (turns ++ [.discard "e"])
    let report := fun s : Threads Unit => (s.outcome? 0).bind fun o =>
      o.toOption.map fun summary => (summary.skipped, summary.discarded)
    (start.compilers[1]?.map fun t => t.stage.flight?) = some none ∧
      report after = some (false, true) ∧ report before = some (false, false) := by
  decide +kernel

end Threads

end ContentBlocker
