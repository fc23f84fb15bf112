import ContentBlocker.Store.Basic

/-!
# Histories of a store

What a store holds is the outcome of the changes that it was asked for, in order.  A change that is
refused leaves the store as it was.
-/

namespace ContentBlocker.Store

/-- A change that a store can be asked for. -/
inductive Change where
  | loadRulesets (client : String) (rulesets : List Ruleset)
  | switchRulesets (client : String) (enable disable : List Text)
  | updateTier (client : String) (tier : Tier) (add : List Rule) (remove : List Int)
  | removeClient (client : String)

/-- The client whose rules a change is about. -/
def Change.client : Change → String
  | loadRulesets client _ | switchRulesets client _ _ | updateTier client _ _ _
  | removeClient client => client

/-- The store after a change, unless the change is refused. -/
def apply (s : Store) : Change → Except StoreFault Store
  | .loadRulesets client rulesets => (s.loadRulesets client rulesets).map (·.2)
  | .switchRulesets client enable disable => (s.switchRulesets client enable disable).map (·.2)
  | .updateTier client tier add remove => (s.updateTier client tier add remove).map (·.2)
  | .removeClient client => .ok (s.removeClient client).2

/-- The store after a change, refused or not. -/
def after (s : Store) (c : Change) : Store :=
  match s.apply c with
  | .ok s => s
  | .error _ => s

/-- The store after changes in order. -/
def replay (s : Store) (changes : List Change) : Store := changes.foldl after s

end ContentBlocker.Store
