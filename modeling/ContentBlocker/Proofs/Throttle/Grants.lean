import ContentBlocker.Proofs.Decimal.WholeNumbers
import ContentBlocker.Proofs.Table
import ContentBlocker.Throttle.History
import Mathlib.Data.List.DropRight
import Mathlib.Data.List.Induction

/-!
# Grants

A throttle knows of every key the latest grant that was not forgotten since, and nothing else
(`last?_replay`).  So a question is granted just if that grant is as long ago as its interval asks
for, or if there is none, and what becomes of the records does not count:
`grants_follow_their_intervals`.
-/

namespace ContentBlocker.Throttle

/-! ## What a throttle knows -/

theorem last?_grant (t : Throttle) (key : String) (now : Int) (other : String) :
    (t.grant key now).last? other = if key = other then some now else t.last? other := by
  change Table.get? ((key, now) :: Table.erase t.grants key) other = _
  rw [Table.get?_cons, Table.get?_erase]
  split <;> rfl

theorem last?_forget (t : Throttle) (stem key : String) :
    (t.forget stem).last? key =
      if stem.toList.isPrefixOf key.toList then none else t.last? key := by
  refine (Table.get?_filter (fun k => !stem.toList.isPrefixOf k.toList) t.grants key).trans ?_
  cases stem.toList.isPrefixOf key.toList <;> rfl

/-! ## Questions -/

/-- Whether a question is granted. -/
def Call.isGranted (t : Throttle) (call : Call) : Bool :=
  match t.isDue call.key call.now call.interval with
  | .ok due => due
  | .error _ => false

/-- The throttle after a question. -/
def answered (t : Throttle) (call : Call) : Throttle :=
  if call.isGranted t then t.grant call.key call.now else t

section Steps

variable {ε σ : Type} (log : Log ε σ) (t : Throttle) (s : σ) (call : Call)

theorem ask_eq :
    t.ask call.key call.now call.interval =
      (t.isDue call.key call.now call.interval).map fun _ =>
        (call.isGranted t, t.answered call) := by
  cases due : t.isDue call.key call.now call.interval <;>
    simp [ask, answer, answered, Call.isGranted, due, Except.map]

theorem after_ask : after log (t, s) (.ask call) = (t.answered call, s) := by
  cases due : t.isDue call.key call.now call.interval <;>
    simp [after, perform, ask_eq, answered, Call.isGranted, due, Except.map]

/-- A report does not fail, and gives the log its line once if it is due. -/
theorem perform_report (line : Line) :
    perform log (t, s) (.report call line) =
      (.ok none, t.answered call, if call.isGranted t then (log.take line s).2 else s) := by
  unfold perform report attempt
  simp only [ask_eq]
  cases due : t.isDue call.key call.now call.interval with
  | error => simp [answered, Call.isGranted, due, Except.map, Except.tryCatch]
  | ok due =>
    cases granted : call.isGranted t with
    | false => simp [Except.map, Except.tryCatch]
    | true =>
      simp only [Except.map, if_true]
      cases (log.take line s).1 <;> rfl

theorem last?_answered (key : String) :
    (t.answered call).last? key =
      if call.isGranted t ∧ call.key = key then some call.now else t.last? key := by
  unfold answered
  split
  · rename_i granted
    simp [last?_grant, granted]
  · rename_i refused
    simp [refused]

/-- A question with a whole number for its interval is granted if the last grant is long enough
ago. -/
theorem isDue_of_whole {interval : Int} (whole : call.interval = .int interval)
    (small : interval.natAbs < Nat.pow 2 53) :
    t.isDue call.key call.now call.interval = .ok (call.isGranted t) ∧
      (call.isGranted t ↔
        ∀ last, t.last? call.key = some last → interval ≤ call.now - last) := by
  obtain ⟨x, read, compares⟩ := Json.exists_real_int small
  unfold Call.isGranted isDue
  cases known : t.last? call.key with
  | none => simp
  | some last =>
    rw [whole, read]
    simp [Except.map, compares]

end Steps

/-! ## Transcripts -/

/-- Whether a step comes with a grant. -/
def Step.isGranted (t : Throttle) (step : Step) : Bool := step.call?.any (·.isGranted t)

/-- Whether a step forgets a key. -/
def Step.forgets (key : String) : Step → Bool
  | .forget stem => stem.toList.isPrefixOf key.toList
  | _ => false

/-- The time at which a key was granted by a step. -/
def grantTime? (key : String) : Step × Bool → Option Int
  | (step, granted) =>
    step.call?.bind fun call => if granted ∧ call.key = key then some call.now else none

/-- The time of the latest grant of a key since it was last forgotten. -/
def lastGrant? (key : String) (past : List (Step × Bool)) : Option Int :=
  (past.rtakeWhile fun e => !e.1.forgets key).reverse.findSome? (grantTime? key)

section Runs

variable {ε σ : Type} (log : Log ε σ)

/-- The steps of a run, each with whether it came with a grant. -/
def transcript : Throttle × σ → List Step → List (Step × Bool)
  | _, [] => []
  | state, step :: steps =>
    (step, step.isGranted state.1) :: transcript (after log state step) steps

theorem transcript_append (state : Throttle × σ) (steps more : List Step) :
    transcript log state (steps ++ more) =
      transcript log state steps ++ transcript log (replay log state steps) more := by
  induction steps generalizing state with
  | nil => rfl
  | cons step steps ih => exact congrArg ((step, _) :: ·) (ih (after log state step))

theorem map_fst_transcript (state : Throttle × σ) (steps : List Step) :
    (transcript log state steps).map (·.1) = steps := by
  induction steps generalizing state with
  | nil => rfl
  | cons step steps ih => exact congrArg (step :: ·) (ih (after log state step))

theorem replay_concat (state : Throttle × σ) (steps : List Step) (step : Step) :
    replay log state (steps ++ [step]) = after log (replay log state steps) step :=
  List.foldl_concat ..

theorem lastGrant?_concat (key : String) (past : List (Step × Bool)) (e : Step × Bool) :
    lastGrant? key (past ++ [e]) =
      if e.1.forgets key then none else (grantTime? key e).or (lastGrant? key past) := by
  unfold lastGrant?
  rw [List.rtakeWhile_concat]
  cases e.1.forgets key with
  | true => rfl
  | false =>
    simp only [Bool.not_false, if_true, Bool.false_eq_true, if_false]
    rw [List.reverse_append, List.reverse_singleton, List.singleton_append, List.findSome?_cons]
    cases grantTime? key e <;> rfl

/-- What a step does to what is known of a key. -/
theorem last?_after (state : Throttle × σ) (step : Step) (key : String) :
    (after log state step).1.last? key =
      if step.forgets key then none
      else (grantTime? key (step, step.isGranted state.1)).or (state.1.last? key) := by
  obtain ⟨t, s⟩ := state
  have asked (call : Call) : (t.answered call).last? key =
      ((if call.isGranted t ∧ call.key = key then some call.now else none).or (t.last? key)) := by
    rw [last?_answered]
    split <;> rfl
  cases step with
  | ask call =>
    rw [after_ask]
    exact asked call
  | report call line =>
    rw [after, perform_report]
    exact asked call
  | forget stem => exact last?_forget t stem key

/-- A throttle knows the latest grant of every key that was not forgotten since. -/
theorem last?_replay (start : σ) (steps : List Step) (key : String) :
    (replay log (empty, start) steps).1.last? key =
      lastGrant? key (transcript log (empty, start) steps) := by
  induction steps using List.reverseRecOn with
  | nil => rfl
  | append_singleton steps step ih =>
    rw [replay_concat, last?_after, transcript_append, transcript, transcript, lastGrant?_concat,
      ih]

theorem exists_of_transcript_eq {state : Throttle × σ} {steps : List Step}
    {early late : List (Step × Bool)} {e : Step × Bool}
    (run : transcript log state steps = early ++ e :: late) :
    ∃ before behind, steps = before ++ e.1 :: behind ∧ transcript log state before = early ∧
      e.2 = e.1.isGranted (replay log state before).1 := by
  induction early generalizing state steps with
  | nil =>
    cases steps with
    | nil => cases run
    | cons step steps =>
      obtain ⟨rfl, -⟩ := List.cons.inj run
      exact ⟨[], steps, rfl, rfl, rfl⟩
  | cons first early ih =>
    cases steps with
    | nil => cases run
    | cons step steps =>
      obtain ⟨rfl, rest⟩ := List.cons.inj run
      obtain ⟨before, behind, rfl, same, granted⟩ := ih rest
      exact ⟨step :: before, behind, rfl, congrArg (_ :: ·) same, granted⟩

end Runs

/-! ## Grants of one key -/

/-- The clock never goes back. -/
def Forward (steps : List Step) : Prop :=
  (steps.filterMap Step.call?).Pairwise fun earlier later => earlier.now ≤ later.now

/-- Every key has one interval. -/
def Regular (interval : String → Int) (steps : List Step) : Prop :=
  ∀ call ∈ steps.filterMap Step.call?, call.interval = .int (interval call.key)

/-- Where a key is granted and not forgotten later, its latest grant is that one or a later one. -/
theorem exists_lastGrant? {first : Step} {call : Call} (here : first.call? = some call)
    (early : List (Step × Bool)) {between : List (Step × Bool)}
    (kept : ∀ e ∈ between, e.1.forgets call.key = false) :
    ∃ last, lastGrant? call.key (early ++ (first, true) :: between) = some last ∧
      (last = call.now ∨ ∃ e ∈ between, ∃ later, e.1.call? = some later ∧ last = later.now) := by
  -- from the end, where the latest grant is looked for
  induction between using List.reverseRecOn with
  | nil =>
    refine ⟨call.now, ?_, .inl rfl⟩
    have keeps : first.forgets call.key = false := by
      cases first with
      | forget => cases here
      | _ => rfl
    rw [lastGrant?_concat, keeps]
    simp [grantTime?, here]
  | append_singleton between e ih =>
    obtain ⟨last, found, among⟩ := ih fun e mem => kept e (List.mem_append_left _ mem)
    have keeps := kept e (by simp)
    rw [← List.cons_append, ← List.append_assoc, lastGrant?_concat, keeps]
    cases granted : grantTime? call.key e with
    | none =>
      refine ⟨last, by simpa using found, among.imp_right ?_⟩
      rintro ⟨f, mem, later⟩
      exact ⟨f, List.mem_append_left _ mem, later⟩
    | some now =>
      refine ⟨now, by simp, .inr ⟨e, by simp, ?_⟩⟩
      obtain ⟨later, asks, time⟩ := Option.bind_eq_some_iff.1 granted
      refine ⟨later, asks, ?_⟩
      split at time
      · exact (Option.some.inj time).symm
      · cases time

section Runs

variable {ε σ : Type} (log : Log ε σ) (start : σ)

/-- What is granted is as long after the latest grant as its interval asks for. -/
theorem isGranted_iff {steps : List Step} {call : Call} {interval : Int}
    (whole : call.interval = .int interval) (small : interval.natAbs < Nat.pow 2 53) :
    call.isGranted (replay log (empty, start) steps).1 ↔
      ∀ last, lastGrant? call.key (transcript log (empty, start) steps) = some last →
        interval ≤ call.now - last := by
  rw [← last?_replay]
  exact (isDue_of_whole _ call whole small).2

theorem now_le_of_forward {steps before behind : List Step} {first second : Step}
    {earlier later : Call} (forward : Forward steps)
    (order : steps = before ++ first :: behind) (mem : second ∈ behind)
    (here : first.call? = some earlier) (there : second.call? = some later) :
    earlier.now ≤ later.now := by
  rw [Forward, List.pairwise_filterMap, order] at forward
  have after := (List.pairwise_append.1 forward).2.1
  exact (List.pairwise_cons.1 after).1 second mem earlier here later there

/-- Two grants of a key that is not forgotten between them are its interval apart. -/
theorem interval_le_of_granted {interval : String → Int} {steps : List Step}
    (regular : Regular interval steps) (small : ∀ key, (interval key).natAbs < Nat.pow 2 53)
    (forward : Forward steps) {early between late : List (Step × Bool)} {first second : Step}
    {earlier later : Call}
    (run : transcript log (empty, start) steps =
      early ++ (first, true) :: between ++ (second, true) :: late)
    (here : first.call? = some earlier) (there : second.call? = some later)
    (same : earlier.key = later.key)
    (kept : ∀ e ∈ between, e.1.forgets later.key = false) :
    interval later.key ≤ later.now - earlier.now := by
  obtain ⟨before, behind, split, past, granted⟩ := exists_of_transcript_eq log run
  have whole : later.interval = .int (interval later.key) :=
    regular later (List.mem_filterMap.2 ⟨second, by simp [split], there⟩)
  have due : later.isGranted (replay log (empty, start) before).1 := by
    simpa [Step.isGranted, there] using granted.symm
  -- what the second grant looks back to is the first, or one between them
  obtain ⟨last, found, among⟩ := exists_lastGrant? here early (same ▸ kept)
  rw [isGranted_iff log start whole (small _), past, ← same] at due
  have apart := due last found
  have order :
      steps = early.map (·.1) ++ first :: (between.map (·.1) ++ second :: late.map (·.1)) := by
    have steps_eq := map_fst_transcript log (empty, start) steps
    rw [run] at steps_eq
    simpa using steps_eq.symm
  have since : earlier.now ≤ last := by
    rcases among with rfl | ⟨e, mem, again, asks, rfl⟩
    · exact Int.le_refl _
    · have inside : e.1 ∈ between.map (·.1) ++ second :: late.map (·.1) :=
        List.mem_append_left _ (List.mem_map_of_mem mem)
      exact now_le_of_forward forward order inside here asks
  rw [← same]
  omega

/-- In every run, a throttle knows the latest grant of every key that was not forgotten since.  A
question whose interval is a whole number is granted just if that grant is as long ago as the
interval says, or there is none; it changes what is known of no other key.  A report never fails,
whether or not the log does.  It has the throttle do what a question would, and gives the log its
line once if there is a grant and not otherwise.  So if the clock never goes back and every key has
one interval, two grants of a key that is not forgotten between them are that interval apart. -/
theorem grants_follow_their_intervals :
    (∀ steps key, (replay log (empty, start) steps).1.last? key =
      lastGrant? key (transcript log (empty, start) steps)) ∧
    (∀ steps call interval, call.interval = .int interval → interval.natAbs < Nat.pow 2 53 →
      let state := replay log (empty, start) steps
      let past := transcript log (empty, start) steps
      ∃ (granted : Bool) (t : Throttle),
        (granted ↔ ∀ last, lastGrant? call.key past = some last → interval ≤ call.now - last) ∧
        perform log state (.ask call) = (.ok (some granted), t, state.2) ∧
        (∀ line, perform log state (.report call line) =
          (.ok none, t, if granted then (log.take line state.2).2 else state.2)) ∧
        (∀ step, step.call? = some call →
          transcript log (empty, start) (steps ++ [step]) = past ++ [(step, granted)]) ∧
        t.last? call.key = (if granted then some call.now else state.1.last? call.key) ∧
        ∀ key, key ≠ call.key → t.last? key = state.1.last? key) ∧
    (∀ state call line, (perform log state (.report call line)).1 = .ok none) ∧
    ∀ interval steps, Regular interval steps → (∀ key, (interval key).natAbs < Nat.pow 2 53) →
      Forward steps → ∀ (early between late : List (Step × Bool)) (first second : Step)
        (earlier later : Call),
      transcript log (empty, start) steps =
        early ++ (first, true) :: between ++ (second, true) :: late →
      first.call? = some earlier → second.call? = some later → earlier.key = later.key →
      (∀ e ∈ between, e.1.forgets later.key = false) →
      interval later.key ≤ later.now - earlier.now := by
  refine ⟨last?_replay log start, fun steps call interval whole small => ?_, ?_, ?_⟩
  · intro state past
    obtain ⟨due, -⟩ := isDue_of_whole state.1 call whole small
    refine ⟨call.isGranted state.1, state.1.answered call, isGranted_iff log start whole small, ?_,
      perform_report log state.1 state.2 call, ?_, ?_, ?_⟩
    · simp [perform, ask_eq, due, Except.map]
    · intro step asks
      rw [transcript_append, transcript, transcript, Step.isGranted, asks]
      rfl
    · simp [last?_answered]
    · intro key other
      simp [last?_answered, Ne.symm other]
  · rintro ⟨t, s⟩ call line
    rw [perform_report]
  · intro interval steps regular small forward early between late first second earlier later
    exact interval_le_of_granted log start regular small forward

/-- With a log that fails, a grant counts until its interval is over or its key is forgotten. -/
theorem lost_records_count :
    let log := Log.keeping false
    let line : Line := ⟨.warning, "lost", []⟩
    let steps : List Step := [.report ⟨"a.b", 0, .int 5⟩ line, .ask ⟨"a.b", 4, .int 5⟩,
      .forget "a.c", .ask ⟨"a.b", 5, .int 5⟩]
    let state := replay log (empty, []) steps
    (transcript log (empty, []) steps).map (·.2) = [true, false, false, true] ∧
      (5 : Int) ≤ 5 - 0 ∧
      (perform log state (.ask ⟨"a.b", 9, .int 5⟩)).1 = .ok (some false) ∧
      (perform log state (.report ⟨"a.b", 10, .int 5⟩ line)).1 = .ok none ∧
      (perform log (after log state (.forget "a.")) (.ask ⟨"a.b", 9, .int 5⟩)).1 =
        .ok (some true) := by
  intro log line steps state
  obtain ⟨-, asked, quiet, apart⟩ := grants_follow_their_intervals log []
  have answer (steps : List Step) (granted : Bool)
      (due : granted ↔ ∀ last, lastGrant? "a.b" (transcript log (empty, []) steps) = some last →
        5 ≤ 9 - last) :
      (perform log (replay log (empty, []) steps) (.ask ⟨"a.b", 9, .int 5⟩)).1 =
        .ok (some granted) := by
    obtain ⟨answered, _, same, performed, -⟩ := asked steps ⟨"a.b", 9, .int 5⟩ 5 rfl (by decide)
    rw [performed, Bool.eq_iff_iff.2 (same.trans due.symm)]
  have grants : (transcript log (empty, []) steps).map (·.2) = [true, false, false, true] := by
    decide +kernel
  have run := List.zip_of_prod (map_fst_transcript log (empty, []) steps) grants
  refine ⟨grants, ?_, answer steps false ?_, quiet .., ?_⟩
  · refine apart (fun _ => 5) steps ?_ (fun _ => by decide) ?_ [] [_, _] [] _ _ _ _ run
      rfl rfl rfl ?_
    · simp [Regular, steps, Step.call?]
    · unfold Forward
      decide
    · decide
  · have known : lastGrant? "a.b" (transcript log (empty, []) steps) = some 5 := by decide +kernel
    simp [known]
  · refine answer (steps ++ [.forget "a."]) true ?_
    have known :
        lastGrant? "a.b" (transcript log (empty, []) (steps ++ [.forget "a."])) = none := by
      decide +kernel
    simp [known]

end Runs

end ContentBlocker.Throttle
