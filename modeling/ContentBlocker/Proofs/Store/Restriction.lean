import ContentBlocker.Manager.Arguments
import ContentBlocker.Proofs.Store.Changes

/-!
# Stores of one client

`Store.only` is what a store has for one client.  A change of this client can be made before all
else is left out or after it: what the store answers and what it has for the client then are the
same.
-/

namespace ContentBlocker

/-! ## Tables of one key -/

namespace Table

variable {κ α : Type} [DecidableEq κ]

/-- What a table says of one key. -/
def only (t : Table κ α) (key : κ) : Table κ α := ((t.get? key).map fun v => (key, v)).toList

theorem get?_only (t : Table κ α) (key : κ) : (t.only key).get? key = t.get? key := by
  unfold only
  cases t.get? key with
  | none => rfl
  | some v => exact (get?_cons key v [] key).trans (if_pos rfl)

theorem set_only (t : Table κ α) (key : κ) (value : α) :
    (t.only key).set key value = (t.set key value).only key := by
  have here : (t.set key value).only key = [(key, value)] := by
    rw [only, get?_set, if_pos rfl]
    rfl
  rw [here]
  unfold only
  cases t.get? key with
  | none => rfl
  | some v => exact if_pos rfl

theorem erase_only (t : Table κ α) (key : κ) : (t.only key).erase key = (t.erase key).only key := by
  have gone : (t.erase key).only key = [] := by
    rw [only, get?_erase, if_pos rfl]
    rfl
  rw [gone]
  unfold only
  cases t.get? key with
  | none => rfl
  | some v => simp [erase]

end Table

namespace Store

/-- What a store has for one client. -/
def only (s : Store) (client : String) : Store := { s with clients := s.clients.only client }

variable (s : Store) (client : String)

/-! ## Looking -/

@[simp] theorem limits_only : (s.only client).limits = s.limits := rfl

@[simp] theorem get?_clients_only :
    (s.only client).clients.get? client = s.clients.get? client :=
  Table.get?_only ..

@[simp] theorem has_only : (s.only client).has client = s.has client := by
  rw [has, get?_clients_only, has]

@[simp] theorem rulesOf_only : (s.only client).rulesOf client = s.rulesOf client := by
  rw [rulesOf, get?_clients_only, rulesOf]

@[simp] theorem checkEnabled_only (rulesets : List Ruleset) :
    (s.only client).checkEnabled rulesets = s.checkEnabled rulesets := rfl

@[simp] theorem checkRulesets_only (rulesets : List Ruleset) :
    (s.only client).checkRulesets rulesets = s.checkRulesets rulesets := rfl

theorem rulesetIds_only (enable disable : Json) :
    rulesetIds (s.only client) client enable disable = rulesetIds s client enable disable := by
  have known : (s.only client).rulesetIds? client = s.rulesetIds? client := by
    rw [rulesetIds?, get?_clients_only, rulesetIds?]
  unfold rulesetIds
  rw [known]

/-! ## Changes -/

theorem put_only (c : ClientRules) :
    (s.only client).put client c = (s.put client c).only client := by
  unfold put only
  rw [Table.set_only]

theorem setRulesets_only (rulesets : List Ruleset) :
    (s.only client).setRulesets client rulesets = (s.setRulesets client rulesets).only client := by
  rw [setRulesets_eq_put, setRulesets_eq_put, rulesOf_only, put_only]

theorem loadRulesets_only (rulesets : List Ruleset) :
    (s.only client).loadRulesets client rulesets =
      (s.loadRulesets client rulesets).map (Prod.map id (·.only client)) := by
  unfold loadRulesets
  dsimp only
  rw [checkRulesets_only]
  cases s.checkRulesets (Ruleset.distinct rulesets) with
  | error fault => rfl
  | ok =>
    simp only [setRulesets_only, rulesOf_only]
    rfl

theorem switchRulesets_only (enable disable : List Text) :
    (s.only client).switchRulesets client enable disable =
      (s.switchRulesets client enable disable).map (Prod.map id (·.only client)) := by
  unfold switchRulesets
  rw [get?_clients_only]
  cases s.clients.get? client with
  | none => rfl
  | some c =>
    dsimp only
    cases (enable ++ disable).find? fun id => !c.rulesets.any (·.id = id) with
    | some id => rfl
    | none =>
      simp only [checkEnabled_only]
      cases s.checkEnabled (c.rulesets.map (·.switch enable disable)) with
      | error fault => rfl
      | ok =>
        simp only [setRulesets_only, rulesOf_only]
        rfl

theorem updateTier_only (tier : Tier) (add : List Rule) (remove : List Int) :
    (s.only client).updateTier client tier add remove =
      (s.updateTier client tier add remove).map (Prod.map id (·.only client)) := by
  have written (c : ClientRules) :
      { s.only client with clients := (s.only client).clients.set client c } =
        only { s with clients := s.clients.set client c } client :=
    put_only s client c
  unfold updateTier
  simp only [rulesOf_only, limits_only]
  split
  · rfl
  · exact congrArg (fun t => Except.ok (_, t)) (written _)

theorem removeClient_only :
    (s.only client).removeClient client = Prod.map id (·.only client) (s.removeClient client) := by
  have erased : { s.only client with clients := (s.only client).clients.erase client } =
      only { s with clients := s.clients.erase client } client :=
    congrArg (Store.mk s.limits) (Table.erase_only s.clients client)
  unfold removeClient
  rw [has_only, erased]
  rfl

end Store

end ContentBlocker
