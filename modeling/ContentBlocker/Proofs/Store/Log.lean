import ContentBlocker.Proofs.Store.Changes
import Mathlib.Data.List.DropRight
import Mathlib.Data.List.Induction

/-!
# Tiers as logs

What a tier of a client holds is read off the updates that were accepted since the client was last
removed: `surviving` are the rules that they added, in order, without those that a later one
removed.  `tiers_replay_accepted_updates` says so of every run, with what each update reports and
what a change leaves alone.
-/

namespace ContentBlocker

/-! ## Tiers of a client -/

namespace ClientRules

theorem tier_setTier (c : ClientRules) (t u : Tier) (rules : List Rule) :
    (c.setTier t rules).tier u = if t = u then rules else c.tier u := by
  cases t <;> cases u <;> rfl

theorem tier_rulesets (c : ClientRules) (rulesets : List Ruleset) (t : Tier) :
    tier { c with rulesets } t = c.tier t := by
  cases t <;> rfl

theorem tier_empty (t : Tier) : empty.tier t = [] := by
  cases t <;> rfl

end ClientRules

namespace Store

/-! ## Updates -/

/-- An update of a tier: ids of rules to remove, and then rules to add. -/
structure Update where
  add : List Rule
  remove : List Int

/-- The rules that updates in order leave: those added whose ids no later update removes. -/
def surviving : List Update → List Rule
  | [] => []
  | u :: later => (u.add.filter fun r => ∀ v ∈ later, r.id ∉ v.remove) ++ surviving later

theorem kept_append (rules more : List Rule) (remove : List Int) :
    kept (rules ++ more) remove = kept rules remove ++ kept more remove :=
  List.filter_append ..

theorem surviving_concat (log : List Update) (u : Update) :
    surviving (log ++ [u]) = kept (surviving log) u.remove ++ u.add := by
  induction log with
  | nil => simp [surviving, kept]
  | cons v log ih =>
    -- of the rules that `v` added, `u` drops its share now
    have added : (v.add.filter fun r => ∀ w ∈ log ++ [u], r.id ∉ w.remove) =
        kept (v.add.filter fun r => ∀ w ∈ log, r.id ∉ w.remove) u.remove := by
      rw [kept_eq_filter, List.filter_filter]
      refine List.filter_congr fun r _ => ?_
      simp [List.mem_append, or_imp, forall_and, and_comm]
    rw [List.cons_append, surviving, ih, surviving, kept_append, added, List.append_assoc]

/-! ## Logs -/

/-- The changes of a run, each with the store that it met. -/
def steps (s : Store) : List Change → List (Store × Change)
  | [] => []
  | c :: changes => (s, c) :: steps (s.after c) changes

/-- The update of a tier of a client that a change is, if the store accepts it. -/
def accepted? (client : String) (tier : Tier) : Store × Change → Option Update
  | (s, .updateTier who t add remove) =>
    if who = client ∧ t = tier ∧ (s.updateTier who t add remove).isOk then some ⟨add, remove⟩
    else none
  | _ => none

/-- Whether a change removes a client. -/
def Change.removes (client : String) : Change → Bool
  | .removeClient who => who = client
  | _ => false

/-- The steps since a client was last removed. -/
def sinceRemoval (client : String) (steps : List (Store × Change)) : List (Store × Change) :=
  steps.rtakeWhile fun step => !step.2.removes client

theorem sinceRemoval_concat (client : String) (steps : List (Store × Change))
    (step : Store × Change) :
    sinceRemoval client (steps ++ [step]) =
      if step.2.removes client then [] else sinceRemoval client steps ++ [step] := by
  rw [sinceRemoval, List.rtakeWhile_concat]
  cases step.2.removes client <;> rfl

/-- The accepted updates of a tier of a client since the client was last removed, in order. -/
def log (client : String) (tier : Tier) (steps : List (Store × Change)) : List Update :=
  (steps.rtakeWhile fun step => !step.2.removes client).filterMap (accepted? client tier)

theorem steps_concat (s : Store) (changes : List Change) (c : Change) :
    s.steps (changes ++ [c]) = s.steps changes ++ [(s.replay changes, c)] := by
  induction changes generalizing s with
  | nil => rfl
  | cons d changes ih => exact congrArg ((s, d) :: ·) (ih (s.after d))

theorem log_concat (client : String) (tier : Tier) (steps : List (Store × Change))
    (step : Store × Change) :
    log client tier (steps ++ [step]) =
      if step.2.removes client then []
      else log client tier steps ++ (accepted? client tier step).toList := by
  have log_eq (steps : List (Store × Change)) :
      log client tier steps = (sinceRemoval client steps).filterMap (accepted? client tier) := rfl
  rw [log_eq, log_eq, sinceRemoval_concat]
  split
  · rfl
  · exact List.filterMap_append

/-! ## What a change does to a tier -/

section Steps

variable {s : Store} {client : String} {tier : Tier}

/-- What an update reports is what it does. -/
theorem updateTier_ok {add : List Rule} {remove : List Int} {update : TierUpdate} {t : Store}
    (ok : s.updateTier client tier add remove = .ok (update, t)) :
    let old := (s.rulesOf client).tier tier
    update = ⟨tier, add.length, old.length - (kept old remove).length,
      (kept old remove ++ add).length⟩ ∧
    t = s.put client ((s.rulesOf client).setTier tier (kept old remove ++ add)) := by
  intro old
  unfold updateTier at ok
  dsimp only at ok
  split at ok
  · cases ok
  · cases ok
    exact ⟨rfl, rfl⟩

/-- Changes of the rulesets of a client leave its tiers. -/
theorem tier_put_rulesets (who : String) {c : ClientRules} (same : s.rulesOf who = c)
    (rulesets : List Ruleset) :
    ((s.put who { c with rulesets }).rulesOf client).tier tier =
      (s.rulesOf client).tier tier := by
  rw [rulesOf_put]
  split
  · rename_i here
    rw [ClientRules.tier_rulesets, ← same, here]
  · rfl

theorem tier_after_updateTier (who : String) (t : Tier) (add : List Rule) (remove : List Int) :
    ((s.after (.updateTier who t add remove)).rulesOf client).tier tier =
      match accepted? client tier (s, .updateTier who t add remove) with
      | some u => kept ((s.rulesOf client).tier tier) u.remove ++ u.add
      | none => (s.rulesOf client).tier tier := by
  cases answered : s.updateTier who t add remove with
  | error fault => simp [after, apply, accepted?, answered, Except.map, Except.isOk, Except.toBool]
  | ok answer =>
    obtain ⟨-, written⟩ := updateTier_ok answered
    have moved : s.after (.updateTier who t add remove) = answer.2 :=
      after_of_ok (map_snd_ok.2 ⟨_, answered⟩)
    rw [moved, written, rulesOf_put]
    by_cases here : who = client
    · subst here
      rw [if_pos rfl, ClientRules.tier_setTier]
      by_cases same : t = tier
      · subst same
        simp [accepted?, answered, Except.isOk, Except.toBool]
      · simp [accepted?, same]
    · simp [accepted?, here]

theorem tier_after (c : Change) (client : String) (tier : Tier) :
    ((s.after c).rulesOf client).tier tier =
      if c.removes client then []
      else
        match accepted? client tier (s, c) with
        | some u => kept ((s.rulesOf client).tier tier) u.remove ++ u.add
        | none => (s.rulesOf client).tier tier := by
  cases c with
  | loadRulesets =>
    refine after_preserves
      (P := fun t => (t.rulesOf client).tier tier = (s.rulesOf client).tier tier) rfl ?_
    intro t accepted
    cases accepted
    exact tier_put_rulesets _ rfl _
  | switchRulesets =>
    refine after_preserves
      (P := fun t => (t.rulesOf client).tier tier = (s.rulesOf client).tier tier) rfl ?_
    intro t accepted
    cases accepted with
    | switchRulesets known => exact tier_put_rulesets _ (rulesOf_of_known known) _
  | updateTier who t add remove => exact tier_after_updateTier who t add remove
  | removeClient who =>
    have removed : s.after (.removeClient who) = (s.removeClient who).2 := rfl
    rw [removed, rulesOf_removeClient]
    by_cases here : who = client
    · simp [Change.removes, here, ClientRules.tier_empty]
    · simp [Change.removes, here, accepted?]

end Steps

/-! ## Runs -/

/-- Whether a change is an update of a tier of a client, or removes the client. -/
def Change.concerns (client : String) (tier : Tier) : Change → Bool
  | .updateTier who t _ _ => who = client ∧ t = tier
  | c => c.removes client

theorem tier_after_of_not_concerns {s : Store} {c : Change} {client : String} {tier : Tier}
    (apart : c.concerns client tier = false) :
    ((s.after c).rulesOf client).tier tier = (s.rulesOf client).tier tier := by
  rw [tier_after]
  cases c with
  | updateTier who t add remove =>
    have apart : ¬(who = client ∧ t = tier) := of_decide_eq_false apart
    have none : accepted? client tier (s, .updateTier who t add remove) = none :=
      if_neg fun h => apart ⟨h.1, h.2.1⟩
    rw [none]
    rfl
  | removeClient who =>
    have apart : (Change.removeClient who).removes client = false := apart
    rw [apart]
    rfl
  | loadRulesets | switchRulesets => rfl

theorem tier_replay (limits : Limits) (changes : List Change) (client : String) (tier : Tier) :
    (((empty limits).replay changes).rulesOf client).tier tier =
      surviving (log client tier ((empty limits).steps changes)) := by
  induction changes using List.reverseRecOn with
  | nil => exact ClientRules.tier_empty tier
  | append_singleton changes c ih =>
    rw [replay_concat, tier_after, steps_concat, log_concat]
    cases removed : c.removes client
    · cases accepted? client tier ((empty limits).replay changes, c) with
      | none => simpa using ih
      | some u => simp [ih, surviving_concat]
    · rfl

/-- After any changes, accepted or refused, a tier of a client holds what the updates accepted since
the client was last removed have left: the rules that they added, in order, without those whose ids
a later one removes.  An accepted update reports how many rules it added, how many it dropped and
how many there are then; a refused change leaves the whole store; and a change leaves all other
clients, and all tiers but that which it updates. -/
theorem tiers_replay_accepted_updates (limits : Limits) (changes : List Change) :
    let s := (empty limits).replay changes
    (∀ client tier, (s.rulesOf client).tier tier =
      surviving (log client tier ((empty limits).steps changes))) ∧
    (∀ client tier add remove update t,
      s.updateTier client tier add remove = .ok (update, t) →
        let old := (s.rulesOf client).tier tier
        let new := (t.rulesOf client).tier tier
        t = s.after (.updateTier client tier add remove) ∧ t.has client ∧
        new = (old.filter fun r => r.id ∉ remove) ++ add ∧
        update.tier = tier ∧ update.added = add.length ∧
        update.removed = (old.filter fun r => r.id ∈ remove).length ∧
        update.removed ≤ old.length ∧
        update.size = old.length - update.removed + update.added ∧
        update.size = new.length) ∧
    (∀ c fault, s.apply c = .error fault → s.after c = s) ∧
    (∀ c client, c.client ≠ client →
      (s.after c).clients.get? client = s.clients.get? client) ∧
    ∀ c client tier, c.concerns client tier = false →
      ((s.after c).rulesOf client).tier tier = (s.rulesOf client).tier tier := by
  intro s
  refine ⟨tier_replay limits changes, ?_, fun c fault => after_of_error,
    fun c client ne => get?_after_of_ne c ne, fun c client tier => tier_after_of_not_concerns⟩
  · intro client tier add remove update t ok old new
    obtain ⟨reported, written⟩ := updateTier_ok ok
    have holds : new = kept old remove ++ add := by
      simp only [new, written, rulesOf_put_self, ClientRules.tier_setTier, if_true, old]
    have moved : s.after (.updateTier client tier add remove) = t :=
      after_of_ok (map_snd_ok.2 ⟨_, ok⟩)
    have known : t.has client := by
      rw [has, written, get?_put, if_pos rfl]
      rfl
    have rest := length_kept_add old remove
    rw [reported]
    refine ⟨moved.symm, known, ?_, rfl, rfl, ?_, Nat.sub_le .., ?_, ?_⟩
    · rw [holds, kept_eq_filter]
    · change old.length - (kept old remove).length = _
      omega
    · change (kept old remove ++ add).length =
        old.length - (old.length - (kept old remove).length) + add.length
      rw [List.length_append]
      omega
    · rw [holds]

/-- A rule under the id of an older one is added beside it, refused updates leave nothing, and a
removal takes the rules of one client only. -/
theorem repeated_ids_are_kept_apart :
    let rule (id : Int) : Rule :=
      ⟨id, none, ⟨.block, none, none, none⟩, ⟨none, none, none, none, none, none, none, none, none,
        none, none, none, none, none, none, none⟩⟩
    let changes : List Change :=
      [.updateTier "d" .dynamic [rule 1] [], .updateTier "e" .dynamic [rule 1, rule 2] [],
        .updateTier "e" .dynamic [rule 1] [7], .updateTier "e" .dynamic [rule 3] [],
        .updateTier "e" .session [rule 4] [1], .updateTier "e" .dynamic [] [2],
        .removeClient "d"]
    let s := (empty ⟨3, 0, 0, 0⟩).replay changes
    ((s.rulesOf "d").dynamic.map (·.id), (s.rulesOf "e").dynamic.map (·.id),
      (s.rulesOf "e").session.map (·.id)) = ([], [1, 1], []) := by
  intro rule changes s
  obtain ⟨tiers, -⟩ := tiers_replay_accepted_updates ⟨3, 0, 0, 0⟩ changes
  have d : (s.rulesOf "d").dynamic = _ := tiers "d" .dynamic
  have dynamic : (s.rulesOf "e").dynamic = _ := tiers "e" .dynamic
  have session : (s.rulesOf "e").session = _ := tiers "e" .session
  rw [d, dynamic, session]
  decide +kernel

end Store

end ContentBlocker
