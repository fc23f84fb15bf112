import ContentBlocker.Proofs.Store.Changes
import ContentBlocker.Proofs.Store.Rulesets

/-!
# Limits

`Within` is what the limits of a store ask of the rules of a client.  Every accepted change keeps it
(`Accepted.within`), so it holds after any changes.  `quotas_hold_and_refuse_exactly` adds when a
change is refused: when what it would leave is above a limit, counted as the limit counts.
-/

namespace ContentBlocker

/-! ## Rules within limits -/

structure Limits.Nonnegative (limits : Limits) : Prop where
  dynamicRules : 0 ≤ limits.dynamicRules
  sessionRules : 0 ≤ limits.sessionRules
  rulesets : 0 ≤ limits.rulesets
  enabledRulesets : 0 ≤ limits.enabledRulesets

/-- The rules of a client do not exceed limits, and its rulesets have different ids. -/
structure ClientRules.Within (limits : Limits) (c : ClientRules) : Prop where
  tier : ∀ t, ((c.tier t).length : Int) ≤ limits.tier t
  rulesets : (c.rulesets.length : Int) ≤ limits.rulesets
  enabled : (Ruleset.countEnabled c.rulesets : Int) ≤ limits.enabledRulesets
  nodup : (Ruleset.ids c.rulesets).Nodup

namespace ClientRules

variable {limits : Limits} {c : ClientRules}

theorem within_empty (nonneg : limits.Nonnegative) : empty.Within limits where
  tier t := by
    cases t
    · exact nonneg.dynamicRules
    · exact nonneg.sessionRules
  rulesets := nonneg.rulesets
  enabled := nonneg.enabledRulesets
  nodup := List.nodup_nil

theorem Within.setRulesets (h : c.Within limits) {rulesets : List Ruleset}
    (few : (rulesets.length : Int) ≤ limits.rulesets)
    (fewEnabled : (Ruleset.countEnabled rulesets : Int) ≤ limits.enabledRulesets)
    (nodup : (Ruleset.ids rulesets).Nodup) : Within limits { c with rulesets } where
  tier t := by
    cases t
    · exact h.tier .dynamic
    · exact h.tier .session
  rulesets := few
  enabled := fewEnabled
  nodup := nodup

theorem Within.setTier (h : c.Within limits) {t : Tier} {rules : List Rule}
    (fits : (rules.length : Int) ≤ limits.tier t) : (c.setTier t rules).Within limits := by
  cases t with
  | dynamic =>
    refine ⟨fun u => ?_, h.rulesets, h.enabled, h.nodup⟩
    cases u
    · exact fits
    · exact h.tier .session
  | session =>
    refine ⟨fun u => ?_, h.rulesets, h.enabled, h.nodup⟩
    cases u
    · exact h.tier .dynamic
    · exact fits

end ClientRules

namespace Store

variable {s t : Store} {client : String}

/-! ## Changes -/

theorem within_put {limits : Limits} (h : ∀ client, (s.rulesOf client).Within limits)
    {c : ClientRules} (own : c.Within limits) (other : String) :
    ((s.put client c).rulesOf other).Within limits := by
  rw [rulesOf_put]
  split
  · exact own
  · exact h other

theorem Accepted.within {c : Change} (accepted : Accepted s c t) (nonneg : s.limits.Nonnegative)
    (h : ∀ client, (s.rulesOf client).Within s.limits) (other : String) :
    (t.rulesOf other).Within s.limits := by
  cases accepted with
  | @loadRulesets client rulesets few fewEnabled =>
    exact within_put h ((h client).setRulesets few fewEnabled
      (Ruleset.nodup_ids_distinct rulesets)) other
  | @switchRulesets client enable disable c known fewEnabled =>
    have own : c.Within s.limits := rulesOf_of_known known ▸ h client
    have few : ((c.rulesets.map (·.switch enable disable)).length : Int) ≤ s.limits.rulesets := by
      rw [List.length_map]
      exact own.rulesets
    have nodup : (Ruleset.ids (c.rulesets.map (·.switch enable disable))).Nodup := by
      rw [Ruleset.ids_switch]
      exact own.nodup
    exact within_put h (own.setRulesets few fewEnabled nodup) other
  | @updateTier client tier add remove fits =>
    exact within_put h ((h client).setTier fits) other
  | @removeClient client =>
    rw [rulesOf_removeClient]
    split
    · exact ClientRules.within_empty nonneg
    · exact h other

theorem within_replay {limits : Limits} (nonneg : limits.Nonnegative) (changes : List Change)
    (client : String) :
    (((empty limits).replay changes).rulesOf client).Within limits := by
  -- changes are checked against the limits of the store, so these are carried along
  suffices general : ∀ s : Store, s.limits = limits →
      (∀ client, (s.rulesOf client).Within limits) →
        ∀ client, ((s.replay changes).rulesOf client).Within limits from
    general (empty limits) rfl (fun _ => ClientRules.within_empty nonneg) client
  induction changes with
  | nil => exact fun s _ h => h
  | cons c changes ih =>
    rintro s rfl h
    refine ih (s.after c) (limits_after c) fun client => ?_
    exact after_preserves (P := fun t => (t.rulesOf client).Within s.limits) (h client)
      fun accepted => accepted.within nonneg h client

/-! ## Refusals -/

/-- The kind of failure with which a store refuses, if it refuses. -/
def refusal? {α : Type} : Except StoreFault α → Option FailureKind
  | .error fault => some fault.kind
  | .ok _ => none

theorem refusal?_updateTier (client : String) (tier : Tier) (add : List Rule)
    (remove : List Int) :
    let old := (s.rulesOf client).tier tier
    refusal? (s.updateTier client tier add remove) =
      if s.limits.tier tier <
        (old.length : Int) - (old.filter fun r => r.id ∈ remove).length + add.length then
        some .quotaExceeded
      else none := by
  intro old
  have count : ((kept old remove ++ add).length : Int) =
      (old.length : Int) - (old.filter fun r => r.id ∈ remove).length + add.length := by
    have rest := length_kept_add old remove
    rw [List.length_append]
    omega
  rw [← count]
  unfold updateTier
  dsimp only
  split <;> rfl

theorem refusal?_loadRulesets (client : String) (rulesets : List Ruleset) :
    let ids := (Ruleset.ids rulesets).dedup
    refusal? (s.loadRulesets client rulesets) =
      if s.limits.rulesets < (ids.length : Int) ∨ s.limits.enabledRulesets <
        ((ids.filter fun id => (Ruleset.last? rulesets id).any (·.enabled)).length : Int) then
        some .quotaExceeded
      else none := by
  intro ids
  rw [← Ruleset.countEnabled_distinct, ← Ruleset.length_distinct]
  unfold loadRulesets
  dsimp only [checkRulesets, checkEnabled]
  by_cases many : s.limits.rulesets < ((Ruleset.distinct rulesets).length : Int)
  · rw [if_pos many, if_pos (.inl many)]
    rfl
  · rw [if_neg many]
    by_cases manyEnabled : s.limits.enabledRulesets <
        (Ruleset.countEnabled (Ruleset.distinct rulesets) : Int)
    · rw [if_pos manyEnabled, if_pos (.inr manyEnabled)]
      rfl
    · rw [if_neg manyEnabled, if_neg (not_or.2 ⟨many, manyEnabled⟩)]
      rfl

theorem refusal?_switchRulesets {c : ClientRules} (found : s.clients.get? client = some c)
    (nodup : (Ruleset.ids c.rulesets).Nodup) {enable disable : List Text}
    (known : ∀ id ∈ enable ++ disable, id ∈ Ruleset.ids c.rulesets) :
    refusal? (s.switchRulesets client enable disable) =
      if s.limits.enabledRulesets <
        ((Ruleset.switchedFlags c.rulesets enable disable).countP (·.2) : Int) then
        some .quotaExceeded
      else none := by
  have named : (enable ++ disable).find? (fun id => !c.rulesets.any (·.id = id)) = none := by
    rw [List.find?_eq_none]
    intro id mem
    obtain ⟨r, here, rfl⟩ := List.mem_map.1 (known id mem)
    simpa using ⟨r, here, rfl⟩
  rw [← Ruleset.flags_switch nodup known, ← Ruleset.countEnabled_eq_countP]
  unfold switchRulesets
  by_cases many : s.limits.enabledRulesets <
      (Ruleset.countEnabled (c.rulesets.map (·.switch enable disable)) : Int)
  · simp only [found, named, checkEnabled, if_pos many]
    rfl
  · simp only [found, named, checkEnabled, if_neg many]
    rfl

/-! ## Runs -/

/-- After any changes every client is within the limits.  An update of a tier is refused exactly if
the rules that it leaves and those that it adds are more than the limit, each rule counted; a load
of rulesets exactly if the ids, or the ids whose last ruleset is enabled, are too many; and a switch
of rulesets that the client has exactly if too many are on after switching off and then on. -/
theorem quotas_hold_and_refuse_exactly {limits : Limits} (nonneg : limits.Nonnegative)
    (changes : List Change) :
    let s := (empty limits).replay changes
    (∀ client,
      let c := s.rulesOf client
      (c.dynamic.length : Int) ≤ limits.dynamicRules ∧
      (c.session.length : Int) ≤ limits.sessionRules ∧
      (c.rulesets.length : Int) ≤ limits.rulesets ∧
      (c.enabled.length : Int) ≤ limits.enabledRulesets) ∧
    (∀ client tier add remove,
      let old := (s.rulesOf client).tier tier
      refusal? (s.updateTier client tier add remove) =
        if limits.tier tier <
          (old.length : Int) - (old.filter fun r => r.id ∈ remove).length + add.length then
          some .quotaExceeded
        else none) ∧
    (∀ client rulesets,
      let ids := (rulesets.map fun r : Ruleset => r.id).dedup
      let enabled := ids.filter fun id =>
        (rulesets.reverse.find? fun r => r.id = id).any (·.enabled)
      refusal? (s.loadRulesets client rulesets) =
        if limits.rulesets < (ids.length : Int) ∨
          limits.enabledRulesets < (enabled.length : Int) then
          some .quotaExceeded
        else none) ∧
    ∀ client c enable disable, s.clients.get? client = some c →
      (∀ id ∈ enable ++ disable, id ∈ c.rulesets.map (·.id)) →
        refusal? (s.switchRulesets client enable disable) =
          if limits.enabledRulesets <
            ((Ruleset.switchedFlags c.rulesets enable disable).countP (·.2) : Int) then
            some .quotaExceeded
          else none := by
  intro s
  have within := within_replay nonneg changes
  have same : s.limits = limits := limits_replay (empty limits) changes
  refine ⟨fun client => ?_, fun client tier add remove => ?_, fun client rulesets => ?_, ?_⟩
  · have h := within client
    refine ⟨h.tier .dynamic, h.tier .session, h.rulesets, ?_⟩
    rw [ClientRules.enabled, List.length_map]
    exact h.enabled
  · exact same ▸ refusal?_updateTier client tier add remove
  · exact same ▸ refusal?_loadRulesets client rulesets
  · intro client c enable disable found known
    have nodup : (Ruleset.ids c.rulesets).Nodup := rulesOf_of_known found ▸ (within client).nodup
    exact same ▸ refusal?_switchRulesets found nodup known

/-- A full tier refuses one more rule but takes it in place of others; a ruleset is not switched on
beside another one but in its place. -/
theorem full_tier_takes_a_replacement :
    let rule (id : Int) : Rule :=
      ⟨id, none, ⟨.block, none, none, none⟩, ⟨none, none, none, none, none, none, none, none, none,
        none, none, none, none, none, none, none⟩⟩
    let limits : Limits := ⟨2, 0, 2, 1⟩
    let s := (empty limits).replay
      [.updateTier "e" .dynamic [rule 1, rule 1] [],
        .loadRulesets "e" [⟨"a", true, []⟩, ⟨"b", true, []⟩, ⟨"a", false, [rule 2]⟩]]
    limits.Nonnegative ∧ (s.rulesOf "e").enabled = ["b"] ∧
      refusal? (s.updateTier "e" .dynamic [rule 3] []) = some .quotaExceeded ∧
      refusal? (s.updateTier "e" .dynamic [rule 3] [1]) = none ∧
      refusal? (s.switchRulesets "e" ["a"] []) = some .quotaExceeded ∧
      refusal? (s.switchRulesets "e" ["a"] ["b"]) = none := by
  intro rule limits s
  have nonneg : limits.Nonnegative := ⟨by decide, by decide, by decide, by decide⟩
  obtain ⟨-, updates, -, switches⟩ := quotas_hold_and_refuse_exactly nonneg
    [.updateTier "e" .dynamic [rule 1, rule 1] [],
      .loadRulesets "e" [⟨"a", true, []⟩, ⟨"b", true, []⟩, ⟨"a", false, [rule 2]⟩]]
  have known : s.clients.get? "e" = some (s.rulesOf "e") := rfl
  refine ⟨nonneg, by decide +kernel, ?_, ?_, ?_, ?_⟩
  · exact (updates "e" .dynamic [rule 3] []).trans (by decide +kernel)
  · exact (updates "e" .dynamic [rule 3] [1]).trans (by decide +kernel)
  · exact (switches "e" _ ["a"] [] known (by decide +kernel)).trans (by decide +kernel)
  · exact (switches "e" _ ["a"] ["b"] known (by decide +kernel)).trans (by decide +kernel)

end Store

end ContentBlocker
