import ContentBlocker.Rule.Basic
import ContentBlocker.Store.Tier

/-!
# The rules of a client

A client has static rules, in rulesets that can be switched on and off, and two tiers of rules that
it changes itself.  Its merged rules are those of its enabled rulesets followed by the two tiers.
-/

namespace ContentBlocker

/-- Rules that are switched on and off together. -/
structure Ruleset where
  id : Text
  enabled : Bool
  rules : List Rule

structure ClientRules where
  rulesets : List Ruleset
  dynamic : List Rule
  session : List Rule

/-! ## Rulesets -/

namespace Ruleset

/-- Rulesets with one more: in place of the one with its id, or at the end. -/
def put (rulesets : List Ruleset) (r : Ruleset) : List Ruleset :=
  match rulesets with
  | [] => [r]
  | s :: rest => if s.id = r.id then r :: rest else s :: put rest r

/-- Rulesets without repeated ids: each id is at its first place with its last content. -/
def distinct (rulesets : List Ruleset) : List Ruleset := rulesets.foldl put []

/-- The number of rulesets that are on. -/
def countEnabled (rulesets : List Ruleset) : Nat := (rulesets.filter (·.enabled)).length

/-- A ruleset after some were switched on and others off; being switched on counts. -/
def switch (enable disable : List Text) (r : Ruleset) : Ruleset :=
  { r with enabled := enable.contains r.id || (!disable.contains r.id && r.enabled) }

end Ruleset

/-! ## Clients -/

namespace ClientRules

def empty : ClientRules := ⟨[], [], []⟩

def tier (c : ClientRules) : Tier → List Rule
  | .dynamic => c.dynamic
  | .session => c.session

def setTier (c : ClientRules) (t : Tier) (rules : List Rule) : ClientRules :=
  match t with
  | .dynamic => { c with dynamic := rules }
  | .session => { c with session := rules }

/-- The rules of the enabled rulesets. -/
def static (c : ClientRules) : List Rule := (c.rulesets.filter (·.enabled)).flatMap (·.rules)

/-- The ids of the enabled rulesets. -/
def enabled (c : ClientRules) : List Text := (c.rulesets.filter (·.enabled)).map (·.id)

def merged (c : ClientRules) : List Rule := c.static ++ c.dynamic ++ c.session

end ClientRules

end ContentBlocker
