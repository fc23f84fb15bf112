import ContentBlocker.Manager.Operation
import ContentBlocker.Proofs.Store.Changes

/-!
# Moves of the manager

An operation that changes the rules of a client reads its arguments, has the store make a change and
compiles; `changed` is this step for any change.  Whatever a manager is asked for, it stays as it
is, takes such a step, or removes all that it has for a client.  `transition_after` says so of every
operation, messages among them, so that what transitions preserve holds after any operations.
-/

namespace ContentBlocker

namespace Store

variable {s t : Store} {client : String}

/-- The store after a change, if there is one. -/
def amended (s : Store) : Option Change → Except StoreFault Store
  | none => .ok s
  | some c => s.apply c

theorem limits_of_amended {change : Option Change} (accepted : s.amended change = .ok t) :
    t.limits = s.limits := by
  cases change with
  | none =>
    cases accepted
    rfl
  | some c => exact (accepted_of_apply accepted).limits

/-- Whether a change writes the rules of a client. -/
def Change.writes (client : String) : Change → Prop
  | .loadRulesets who _ | .switchRulesets who _ _ | .updateTier who _ _ _ => who = client
  | .removeClient _ => False

theorem Change.writes.client_eq {c : Change} (writes : c.writes client) : c.client = client := by
  cases c with
  | loadRulesets | switchRulesets | updateTier => exact writes
  | removeClient => cases writes

/-- A client whose rules were written is known. -/
theorem Accepted.has {c : Change} (accepted : Accepted s c t) (writes : c.writes client) :
    t.has client := by
  unfold Store.has
  cases accepted with
  | loadRulesets | switchRulesets | updateTier =>
    cases writes
    rw [get?_put, if_pos rfl]
    rfl
  | removeClient => cases writes

end Store

namespace Manager

variable {σ : Type}

/-- The manager after the compilation of what a client has in a store. -/
def compiled (service : Service σ) (m : Manager σ) (client : String) (store : Store) : Manager σ :=
  ⟨store, (m.compiler.compile service client (store.rulesOf client).merged).2⟩

/-- What an operation can make of a manager. -/
inductive Move (service : Service σ) (m : Manager σ) : Manager σ → Prop
  | stay : Move service m m
  /-- the rules of one client are changed, or not, and compiled -/
  | compile {client : String} {store : Store}
    (others : ∀ other, client ≠ other → store.rulesOf other = m.store.rulesOf other) :
    Move service m (m.compiled service client store)
  | remove (client : String) : Move service m (m.removeRules service client).2

/-! ## Changes that are asked for -/

/-- What an operation asks of the store: a change, or none to compile what there is, unless its
arguments cannot be read. -/
abbrev Asked := Except Failure (Option Store.Change)

namespace Asked

def loadStaticRules (client : String) (rules : Json) : Asked :=
  match Batch.ofJson rules with
  | .error d => .error (.defect d)
  | .ok batch => .ok (some (.loadRulesets client [⟨Store.defaultRuleset, true, batch.rules⟩]))

def loadRulesets (client : String) (rulesets : Json) : Asked :=
  match Ruleset.listOfJson client rulesets with
  | .error failure => .error failure
  | .ok (rulesets, _) => .ok (some (.loadRulesets client rulesets))

def switchRulesets (s : Store) (client : String) (enable disable : Json) : Asked :=
  match rulesetIds s client enable disable with
  | .error failure => .error failure
  | .ok (enable, disable) => .ok (some (.switchRulesets client enable disable))

def updateTier (client : String) (tier : Tier) (add remove : Json) : Asked :=
  match Batch.ofJson add, ruleIds remove with
  | .error d, _ | .ok _, .error d => .error (.defect d)
  | .ok batch, .ok ids => .ok (some (.updateTier client tier batch.rules ids))

def recompile (s : Store) (client : String) : Asked :=
  if s.has client then .ok none else .error (.noRules client)

/-- What is asked for is about one client, which is known if only its rules are to be compiled. -/
def IsFor (s : Store) (client : String) : Asked → Prop
  | .error _ => True
  | .ok none => s.has client
  | .ok (some c) => c.writes client

end Asked

/-- What an operation asks of the store, if it is one that changes or compiles rules. -/
def Operation.asked? (s : Store) : Operation → Option Asked
  | loadStaticRules client rules => some (.loadStaticRules client rules)
  | loadRulesets client rulesets => some (.loadRulesets client rulesets)
  | updateTier client tier add remove => some (.updateTier client tier add remove)
  | switchRulesets client enable disable => some (.switchRulesets s client enable disable)
  | recompile client => some (.recompile s client)
  | removeRules _ | getTier _ _ | getEnabledRulesets _ | getRuleList _ | message _ _ => none

/-- The step that makes the change that is asked for and compiles the rules of the client. -/
def changed {α : Type} (service : Service σ) (m : Manager σ) (client : String) (asked : Asked)
    (answer : Summary → α) : Step σ α :=
  match asked with
  | .error failure => (.error failure, m)
  | .ok change =>
    match m.store.amended change with
    | .error fault => (.error (.store client fault), m)
    | .ok store => m.recompiled service client store answer

/-- A step makes the change of a client that is asked for, and compiles. -/
def Makes {α : Type} (service : Service σ) (m : Manager σ) (client : String) (asked : Asked)
    (step : Step σ α) : Prop :=
  asked.IsFor m.store client ∧ ∃ answer, step = m.changed service client asked answer

section Operations

variable {service : Service σ} {m : Manager σ} {client : String}

theorem makes_loadStaticRules (rules : Json) :
    m.Makes service client (.loadStaticRules client rules)
      (m.loadStaticRules service client rules) := by
  unfold Makes loadStaticRules changed Asked.loadStaticRules
  cases Batch.ofJson rules with
  | error d => exact ⟨trivial, fun s => ⟨0, 0, [], s⟩, rfl⟩
  | ok batch =>
    refine ⟨rfl, fun s => ⟨batch.rules.length, 0, batch.rejected, s⟩, ?_⟩
    have same : m.store.amended
        (some (.loadRulesets client [⟨Store.defaultRuleset, true, batch.rules⟩])) =
          (m.store.loadStatic client batch.rules).map (·.2) :=
      m.store.apply_loadStatic client batch.rules
    simp only [same]
    cases m.store.loadStatic client batch.rules <;> rfl

theorem makes_loadRulesets (rulesets : Json) :
    m.Makes service client (.loadRulesets client rulesets)
      (m.loadRulesets service client rulesets) := by
  unfold Makes loadRulesets changed Asked.loadRulesets
  cases Ruleset.listOfJson client rulesets with
  | error failure => exact ⟨trivial, fun s => ⟨0, 0, [], s⟩, rfl⟩
  | ok loaded =>
    obtain ⟨rulesets, rejected⟩ := loaded
    have same : m.store.amended (some (.loadRulesets client rulesets)) =
        (m.store.loadRulesets client rulesets).map (·.2) := rfl
    simp only [same]
    cases m.store.loadRulesets client rulesets with
    | error fault => exact ⟨rfl, fun s => ⟨0, 0, [], s⟩, rfl⟩
    | ok answer => exact ⟨rfl, fun s => ⟨answer.1, 0, rejected, s⟩, rfl⟩

/-- What is asked of the store, and how the answer is made, does not depend on the service. -/
theorem exists_switchRulesets_eq (m : Manager σ) (client : String) (enable disable : Json) :
    ∃ answer, ∀ service : Service σ, m.switchRulesets service client enable disable =
      m.changed service client (.switchRulesets m.store client enable disable) answer := by
  refine ⟨id, fun service => ?_⟩
  unfold switchRulesets changed Asked.switchRulesets
  cases rulesetIds m.store client enable disable with
  | error failure => rfl
  | ok ids =>
    obtain ⟨enable, disable⟩ := ids
    have same : m.store.amended (some (.switchRulesets client enable disable)) =
        (m.store.switchRulesets client enable disable).map (·.2) := rfl
    simp only [same]
    cases m.store.switchRulesets client enable disable <;> rfl

theorem makes_switchRulesets (enable disable : Json) :
    m.Makes service client (.switchRulesets m.store client enable disable)
      (m.switchRulesets service client enable disable) := by
  obtain ⟨answer, same⟩ := m.exists_switchRulesets_eq client enable disable
  refine ⟨?_, answer, same service⟩
  unfold Asked.switchRulesets
  cases rulesetIds m.store client enable disable with
  | error failure => trivial
  | ok ids => rfl

theorem exists_updateTier_eq (m : Manager σ) (client : String) (tier : Tier) (add remove : Json) :
    ∃ answer, ∀ service : Service σ, m.updateTier service client tier add remove =
      m.changed service client (.updateTier client tier add remove) answer := by
  unfold updateTier changed Asked.updateTier
  cases Batch.ofJson add with
  | error d => exact ⟨fun s => ⟨0, 0, [], s⟩, fun _ => rfl⟩
  | ok batch =>
    cases ruleIds remove with
    | error d => exact ⟨fun s => ⟨0, 0, [], s⟩, fun _ => rfl⟩
    | ok ids =>
      have same : m.store.amended (some (.updateTier client tier batch.rules ids)) =
          (m.store.updateTier client tier batch.rules ids).map (·.2) := rfl
      simp only [same]
      cases m.store.updateTier client tier batch.rules ids with
      | error fault => exact ⟨fun s => ⟨0, 0, [], s⟩, fun _ => rfl⟩
      | ok answer =>
        exact ⟨fun s => ⟨answer.1.added, answer.1.removed, batch.rejected, s⟩, fun _ => rfl⟩

theorem makes_updateTier (tier : Tier) (add remove : Json) :
    m.Makes service client (.updateTier client tier add remove)
      (m.updateTier service client tier add remove) := by
  obtain ⟨answer, same⟩ := m.exists_updateTier_eq client tier add remove
  refine ⟨?_, answer, same service⟩
  unfold Asked.updateTier
  cases Batch.ofJson add with
  | error d => trivial
  | ok batch =>
    cases ruleIds remove with
    | error d => trivial
    | ok ids => rfl

theorem makes_recompile :
    m.Makes service client (.recompile m.store client) (m.recompile service client) := by
  unfold Makes recompile changed Asked.recompile
  split
  · rename_i known
    exact ⟨known, id, rfl⟩
  · exact ⟨trivial, id, rfl⟩

/-- A change that is asked for is refused, or it is made and compiled.  Which of the two does not
depend on the service. -/
theorem changed_cases (m : Manager σ) (client : String) (asked : Asked) :
    (∃ failure, (asked = .error failure ∨ ∃ fault, failure = .store client fault) ∧
      ∀ (service : Service σ) {α : Type} (answer : Summary → α),
        m.changed service client asked answer = (.error failure, m)) ∨
    ∃ change store, asked = .ok change ∧ m.store.amended change = .ok store ∧
      ∀ (service : Service σ) {α : Type} (answer : Summary → α),
        m.changed service client asked answer = m.recompiled service client store answer := by
  unfold changed
  cases asked with
  | error failure => exact .inl ⟨failure, .inl rfl, fun _ _ _ => rfl⟩
  | ok change =>
    cases amended : m.store.amended change with
    | error fault =>
      exact .inl ⟨.store client fault, .inr ⟨fault, rfl⟩, fun _ _ _ => by simp only [amended]⟩
    | ok store => exact .inr ⟨change, store, rfl, amended, fun _ _ _ => by simp only [amended]⟩

theorem recompiled_map {α β : Type} {store : Store} {answer : Summary → α} {step : Step σ α}
    (made : step = m.recompiled service client store answer) (f : α → β) :
    (step.1.map f, step.2) = m.recompiled service client store (f ∘ answer) := by
  rw [made]
  unfold recompiled
  rcases m.compiler.compile service client (store.rulesOf client).merged with ⟨_ | _, _⟩ <;> rfl

theorem changed_map {α β : Type} {asked : Asked} (answer : Summary → α) (f : α → β) :
    ((m.changed service client asked answer).1.map f, (m.changed service client asked answer).2) =
      m.changed service client asked (f ∘ answer) := by
  rcases m.changed_cases client asked with ⟨failure, -, refused⟩ | ⟨change, store, -, -, made⟩
  · rw [refused, refused]
    rfl
  · rw [made, made]
    exact recompiled_map rfl f

theorem Makes.map {α β : Type} {asked : Asked} {step : Step σ α}
    (makes : m.Makes service client asked step) (f : α → β) :
    m.Makes service client asked (step.1.map f, step.2) := by
  obtain ⟨isFor, answer, rfl⟩ := makes
  exact ⟨isFor, f ∘ answer, changed_map answer f⟩

theorem makes_operate (expose : Bool) {op : Operation} (own : op.client? = some client)
    {asked : Asked} (asks : op.asked? m.store = some asked) :
    m.Makes service client asked (m.operate service expose op) := by
  cases op with
  | loadStaticRules _ rules =>
    cases own
    cases asks
    exact (makes_loadStaticRules rules).map _
  | loadRulesets _ rulesets =>
    cases own
    cases asks
    exact (makes_loadRulesets rulesets).map _
  | updateTier _ tier add remove =>
    cases own
    cases asks
    exact (makes_updateTier tier add remove).map _
  | switchRulesets _ enable disable =>
    cases own
    cases asks
    exact (makes_switchRulesets enable disable).map _
  | recompile =>
    cases own
    cases asks
    exact makes_recompile.map _
  | removeRules | getTier | getEnabledRulesets | getRuleList | message => cases asks

end Operations

/-! ## Transitions -/

/-- What an operation can make of a manager, with the change of the store behind it. -/
inductive Transition (service : Service σ) (m : Manager σ) : Manager σ → Prop
  | stay : Transition service m m
  | compile {client : String} {change : Option Store.Change} {store : Store}
    (accepted : m.store.amended change = .ok store) (writes : ∀ c ∈ change, c.writes client)
    (known : store.has client) : Transition service m (m.compiled service client store)
  | remove (client : String) : Transition service m (m.removeRules service client).2

section Transitions

variable {service : Service σ} {m : Manager σ} {client : String}

theorem Makes.transition {α : Type} {asked : Asked} {step : Step σ α}
    (makes : m.Makes service client asked step) : Transition service m step.2 := by
  obtain ⟨isFor, answer, rfl⟩ := makes
  rcases m.changed_cases client asked with
    ⟨failure, -, refused⟩ | ⟨change, store, rfl, accepted, made⟩
  · rw [refused]
    exact .stay
  · rw [made]
    refine .compile accepted ?_ ?_
    · rintro c rfl
      exact isFor
    · cases change with
      | none =>
        cases accepted
        exact isFor
      | some c => exact (Store.accepted_of_apply accepted).has isFor

theorem transition_perform (service : Service σ) (m : Manager σ) (client : String)
    (request : Request) : Transition service m (m.perform service client request).2 := by
  cases request with
  | updateTier tier add remove => exact (makes_updateTier tier _ _).transition
  | updateEnabledRulesets enable disable => exact (makes_switchRulesets _ _).transition
  | getTier | getEnabledRulesets => exact .stay

theorem transition_after (service : Service σ) (m : Manager σ) (expose : Bool) (op : Operation) :
    Transition service m (m.after service expose op) := by
  cases op with
  | loadStaticRules | loadRulesets | updateTier | switchRulesets | recompile =>
    exact (makes_operate expose rfl rfl).transition
  | removeRules client => exact .remove client
  | getTier | getEnabledRulesets | getRuleList => exact .stay
  | message client body =>
    have run : Transition service m (runMessage (perform service) client body m).2 := by
      unfold runMessage
      split
      · exact .stay
      · exact transition_perform service m _ _
    exact run

/-- What every transition preserves holds after any operations. -/
theorem replay_preserves_of_transition {P : Manager σ → Prop}
    (transition : ∀ {m m' : Manager σ}, Transition service m m' → P m → P m') (h : P m)
    (expose : Bool) (ops : List Operation) : P (m.replay service expose ops) := by
  induction ops generalizing m with
  | nil => exact h
  | cons op ops ih => exact ih (transition (transition_after service m expose op) h)

end Transitions

/-! ## Moves -/

theorem Transition.move {service : Service σ} {m m' : Manager σ}
    (transition : Transition service m m') : Move service m m' := by
  cases transition with
  | stay => exact .stay
  | @compile client change store accepted writes =>
    refine .compile fun other ne => ?_
    cases change with
    | none =>
      cases accepted
      rfl
    | some c =>
      have about : c.client = client := (writes c rfl).client_eq
      unfold Store.rulesOf
      rw [(Store.accepted_of_apply accepted).get?_of_ne (about ▸ ne)]
  | remove client => exact .remove client

/-- What every move preserves holds after any operations. -/
theorem replay_preserves {P : Manager σ → Prop} {service : Service σ}
    (move : ∀ {m m' : Manager σ}, Move service m m' → P m → P m') {m : Manager σ} (h : P m)
    (expose : Bool) (ops : List Operation) : P (m.replay service expose ops) :=
  replay_preserves_of_transition (fun transition => move transition.move) h expose ops

end Manager

end ContentBlocker
