import ContentBlocker.Store.History
import Mathlib.Data.List.Basic

/-!
# Accepted changes

`Accepted` lists what the changes of a store can do, each with what the store checks first.  Every
accepted change but a removal writes the rules of its client, so that what holds of all changes is
proved by its cases.
-/

namespace ContentBlocker.Store

variable {s t : Store} {client : String}

/-! ## Writing one client -/

/-- The store with other rules of a client. -/
def put (s : Store) (client : String) (c : ClientRules) : Store :=
  { s with clients := s.clients.set client c }

theorem setRulesets_eq_put (rulesets : List Ruleset) :
    s.setRulesets client rulesets = s.put client { s.rulesOf client with rulesets } := rfl

theorem get?_put (c : ClientRules) (other : String) :
    (s.put client c).clients.get? other =
      if client = other then some c else s.clients.get? other :=
  Table.get?_set ..

theorem rulesOf_put (c : ClientRules) (other : String) :
    (s.put client c).rulesOf other = if client = other then c else s.rulesOf other := by
  unfold rulesOf
  rw [get?_put]
  split <;> rfl

theorem rulesOf_put_self (c : ClientRules) : (s.put client c).rulesOf client = c := by
  rw [rulesOf_put, if_pos rfl]

theorem get?_removeClient (other : String) :
    (s.removeClient client).2.clients.get? other =
      if client = other then none else s.clients.get? other :=
  Table.get?_erase ..

theorem rulesOf_removeClient (other : String) :
    (s.removeClient client).2.rulesOf other =
      if client = other then .empty else s.rulesOf other := by
  unfold rulesOf
  rw [get?_removeClient]
  split <;> rfl

theorem rulesOf_of_known {c : ClientRules} (known : s.clients.get? client = some c) :
    s.rulesOf client = c := by
  rw [rulesOf, known, Option.getD_some]

/-! ## Rules that are kept -/

theorem kept_eq_filter (rules : List Rule) (remove : List Int) :
    kept rules remove = rules.filter fun r => r.id ∉ remove := by
  simp [kept]

theorem length_kept_add (rules : List Rule) (remove : List Int) :
    (kept rules remove).length + (rules.filter fun r => r.id ∈ remove).length = rules.length := by
  have split := List.length_eq_length_filter_add (l := rules) fun r => decide (r.id ∈ remove)
  have rest : kept rules remove = rules.filter fun r => !decide (r.id ∈ remove) := by
    simp [kept]
  rw [rest, split, Nat.add_comm]

/-! ## Checks -/

theorem checkEnabled_ok {rulesets : List Ruleset} :
    s.checkEnabled rulesets = .ok () ↔
      Ruleset.countEnabled rulesets ≤ s.limits.enabledRulesets := by
  unfold checkEnabled
  split <;> simp <;> omega

theorem checkRulesets_ok {rulesets : List Ruleset} :
    s.checkRulesets rulesets = .ok () ↔
      rulesets.length ≤ s.limits.rulesets ∧
        Ruleset.countEnabled rulesets ≤ s.limits.enabledRulesets := by
  unfold checkRulesets
  split
  · simp; omega
  · rw [checkEnabled_ok]
    exact ⟨fun h => ⟨by omega, h⟩, And.right⟩

/-- Rulesets within the limits are loaded. -/
theorem loadRulesets_of_few (client : String) {rulesets : List Ruleset}
    (few : (Ruleset.distinct rulesets).length ≤ s.limits.rulesets)
    (fewEnabled :
      Ruleset.countEnabled (Ruleset.distinct rulesets) ≤ s.limits.enabledRulesets) :
    let c := { s.rulesOf client with rulesets := Ruleset.distinct rulesets }
    s.loadRulesets client rulesets = .ok (c.static.length, s.put client c) := by
  intro c
  unfold loadRulesets
  dsimp only
  rw [checkRulesets_ok.2 ⟨few, fewEnabled⟩, setRulesets_eq_put]
  dsimp only
  rw [rulesOf_put_self]

/-! ## Changes -/

/-- Static rules that are given without a ruleset are a load of one ruleset. -/
theorem apply_loadStatic (s : Store) (client : String) (rules : List Rule) :
    s.apply (.loadRulesets client [⟨defaultRuleset, true, rules⟩]) =
      (s.loadStatic client rules).map (·.2) := rfl

/-- The changes that a store accepts, and what it makes of them. -/
inductive Accepted (s : Store) : Change → Store → Prop
  | loadRulesets {client : String} {rulesets : List Ruleset}
    (few : (Ruleset.distinct rulesets).length ≤ s.limits.rulesets)
    (fewEnabled :
      Ruleset.countEnabled (Ruleset.distinct rulesets) ≤ s.limits.enabledRulesets) :
    Accepted s (.loadRulesets client rulesets)
      (s.put client { s.rulesOf client with rulesets := Ruleset.distinct rulesets })
  | switchRulesets {client : String} {enable disable : List Text} {c : ClientRules}
    (known : s.clients.get? client = some c)
    (fewEnabled :
      Ruleset.countEnabled (c.rulesets.map (·.switch enable disable)) ≤ s.limits.enabledRulesets) :
    Accepted s (.switchRulesets client enable disable)
      (s.put client { c with rulesets := c.rulesets.map (·.switch enable disable) })
  | updateTier {client : String} {tier : Tier} {add : List Rule} {remove : List Int}
    (fits : ((kept ((s.rulesOf client).tier tier) remove ++ add).length : Int) ≤
      s.limits.tier tier) :
    Accepted s (.updateTier client tier add remove)
      (s.put client ((s.rulesOf client).setTier tier
        (kept ((s.rulesOf client).tier tier) remove ++ add)))
  | removeClient {client : String} :
    Accepted s (.removeClient client) (s.removeClient client).2

section Operations

variable {rulesets : List Ruleset} {enable disable enabled : List Text} {tier : Tier}
  {add : List Rule} {remove : List Int} {count : Nat} {update : TierUpdate}

theorem accepted_of_loadRulesets (ok : s.loadRulesets client rulesets = .ok (count, t)) :
    Accepted s (.loadRulesets client rulesets) t := by
  unfold loadRulesets at ok
  dsimp only at ok
  split at ok
  · cases ok
  · rename_i fits
    obtain ⟨few, fewEnabled⟩ := checkRulesets_ok.1 fits
    cases ok
    exact .loadRulesets few fewEnabled

theorem accepted_of_switchRulesets
    (ok : s.switchRulesets client enable disable = .ok (enabled, t)) :
    Accepted s (.switchRulesets client enable disable) t := by
  unfold switchRulesets at ok
  split at ok
  · cases ok
  · rename_i c known
    split at ok
    · cases ok
    · dsimp only at ok
      split at ok
      · cases ok
      · rename_i fits
        have written : s.setRulesets client (c.rulesets.map (·.switch enable disable)) =
            s.put client { c with rulesets := c.rulesets.map (·.switch enable disable) } := by
          rw [setRulesets_eq_put, rulesOf_of_known known]
        cases ok
        rw [written]
        exact .switchRulesets known (checkEnabled_ok.1 fits)

theorem accepted_of_updateTier
    (ok : s.updateTier client tier add remove = .ok (update, t)) :
    Accepted s (.updateTier client tier add remove) t := by
  unfold updateTier at ok
  dsimp only at ok
  split at ok
  · cases ok
  · rename_i fits
    cases ok
    exact .updateTier (Int.not_lt.1 fits)

end Operations

theorem map_snd_ok {α : Type} {x : Except StoreFault (α × Store)} :
    x.map (·.2) = .ok t ↔ ∃ answer, x = .ok (answer, t) := by
  rcases x with fault | ⟨answer, u⟩ <;> simp [Except.map, eq_comm]

theorem accepted_of_apply {c : Change} (ok : s.apply c = .ok t) : Accepted s c t := by
  cases c with
  | loadRulesets =>
    obtain ⟨_, ok⟩ := map_snd_ok.1 ok
    exact accepted_of_loadRulesets ok
  | switchRulesets =>
    obtain ⟨_, ok⟩ := map_snd_ok.1 ok
    exact accepted_of_switchRulesets ok
  | updateTier =>
    obtain ⟨_, ok⟩ := map_snd_ok.1 ok
    exact accepted_of_updateTier ok
  | removeClient =>
    cases ok
    exact .removeClient

theorem after_of_ok {c : Change} (ok : s.apply c = .ok t) : s.after c = t := by
  simp only [after, ok]

/-- A change that is refused leaves the store. -/
theorem after_of_error {c : Change} {fault : StoreFault} (refused : s.apply c = .error fault) :
    s.after c = s := by
  simp only [after, refused]

/-! ## What all changes leave -/

theorem Accepted.limits {c : Change} (accepted : Accepted s c t) : t.limits = s.limits := by
  cases accepted <;> rfl

theorem Accepted.get?_of_ne {c : Change} (accepted : Accepted s c t) {other : String}
    (ne : c.client ≠ other) : t.clients.get? other = s.clients.get? other := by
  cases accepted with
  | loadRulesets | switchRulesets | updateTier => exact (get?_put ..).trans (if_neg ne)
  | removeClient => exact (get?_removeClient ..).trans (if_neg ne)

/-- What every accepted change keeps, every change keeps. -/
theorem after_preserves {P : Store → Prop} {c : Change} (h : P s)
    (accepted : ∀ {t}, Accepted s c t → P t) : P (s.after c) := by
  unfold after
  split
  · rename_i ok
    exact accepted (accepted_of_apply ok)
  · exact h

theorem limits_after (c : Change) : (s.after c).limits = s.limits :=
  after_preserves (P := fun t => t.limits = s.limits) rfl Accepted.limits

/-- A change is about one client: of the others not even the existence changes. -/
theorem get?_after_of_ne (c : Change) {other : String} (ne : c.client ≠ other) :
    (s.after c).clients.get? other = s.clients.get? other :=
  after_preserves (P := fun t => t.clients.get? other = s.clients.get? other) rfl
    fun accepted => accepted.get?_of_ne ne

theorem rulesOf_after_of_ne (c : Change) {other : String} (ne : c.client ≠ other) :
    (s.after c).rulesOf other = s.rulesOf other := by
  unfold rulesOf
  rw [get?_after_of_ne c ne]

/-! ## Runs -/

theorem replay_concat (s : Store) (changes : List Change) (c : Change) :
    s.replay (changes ++ [c]) = (s.replay changes).after c := by
  rw [replay, replay, List.foldl_append]
  rfl

theorem limits_replay (s : Store) (changes : List Change) :
    (s.replay changes).limits = s.limits := by
  induction changes generalizing s with
  | nil => rfl
  | cons c changes ih => exact (ih (s.after c)).trans (limits_after c)

end ContentBlocker.Store
