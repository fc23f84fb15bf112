import ContentBlocker.Store.Client
import ContentBlocker.Store.Fault
import ContentBlocker.Table

/-!
# The store of rules

The store keeps the rules of every client within limits.  An operation that is refused gives no new
store, so that nothing of it can remain.
-/

namespace ContentBlocker

/-- The most rules and rulesets of a client. -/
structure Limits where
  dynamicRules : Int
  sessionRules : Int
  rulesets : Int
  enabledRulesets : Int
deriving DecidableEq, Repr

def Limits.standard : Limits := ⟨5000, 5000, 50, 10⟩

def Limits.tier (limits : Limits) : Tier → Int
  | .dynamic => limits.dynamicRules
  | .session => limits.sessionRules

structure Store where
  limits : Limits
  clients : Table String ClientRules

namespace Store

def empty (limits : Limits) : Store := ⟨limits, []⟩

/-! ## Looking -/

def has (s : Store) (client : String) : Bool := (s.clients.get? client).isSome

/-- The rules of a client; one that is not known has none. -/
def rulesOf (s : Store) (client : String) : ClientRules := (s.clients.get? client).getD .empty

/-- The clients that are known, sorted. -/
def sortedClients (s : Store) : List String := s.clients.keys.mergeSort (· ≤ ·)

/-! ## Rulesets -/

/-- Refuses more enabled rulesets than the limit. -/
def checkEnabled (s : Store) (rulesets : List Ruleset) : Except StoreFault Unit :=
  if s.limits.enabledRulesets < Ruleset.countEnabled rulesets then
    .error (.tooManyEnabled (Ruleset.countEnabled rulesets) s.limits.enabledRulesets)
  else .ok ()

/-- Refuses more rulesets, or more enabled ones, than the limits. -/
def checkRulesets (s : Store) (rulesets : List Ruleset) : Except StoreFault Unit :=
  if s.limits.rulesets < rulesets.length then
    .error (.tooManyRulesets rulesets.length s.limits.rulesets)
  else s.checkEnabled rulesets

/-- The store with other rulesets for a client. -/
def setRulesets (s : Store) (client : String) (rulesets : List Ruleset) : Store :=
  { s with clients := s.clients.set client { s.rulesOf client with rulesets } }

/-- Replaces the rulesets of a client; the answer is the number of rules in the enabled ones. -/
def loadRulesets (s : Store) (client : String) (rulesets : List Ruleset) :
    Except StoreFault (Nat × Store) :=
  let rulesets := Ruleset.distinct rulesets
  match s.checkRulesets rulesets with
  | .error fault => .error fault
  | .ok () =>
    let s := s.setRulesets client rulesets
    .ok ((s.rulesOf client).static.length, s)

/-- The id of the ruleset that stands for static rules given without one. -/
def defaultRuleset : Text := "_default"

/-- Replaces the rulesets of a client by one. -/
def loadStatic (s : Store) (client : String) (rules : List Rule) :
    Except StoreFault (Nat × Store) :=
  s.loadRulesets client [⟨defaultRuleset, true, rules⟩]

/-- Switches rulesets of a client on and off; the answer is the list of those that are on. -/
def switchRulesets (s : Store) (client : String) (enable disable : List Text) :
    Except StoreFault (List Text × Store) :=
  match s.clients.get? client with
  | none => .error .noRulesets
  | some c =>
    match (enable ++ disable).find? fun id => !c.rulesets.any (·.id = id) with
    | some id => .error (.unknownRuleset id)
    | none =>
      let rulesets := c.rulesets.map (·.switch enable disable)
      match s.checkEnabled rulesets with
      | .error fault => .error fault
      | .ok () =>
        let s := s.setRulesets client rulesets
        .ok ((s.rulesOf client).enabled, s)

/-! ## Tiers -/

/-- What an update did to a tier. -/
structure TierUpdate where
  tier : Tier
  added : Nat
  removed : Nat
  size : Nat
deriving DecidableEq, Repr

/-- The rules whose ids are not to be removed. -/
def kept (rules : List Rule) (remove : List Int) : List Rule :=
  rules.filter fun r => !remove.contains r.id

/-- Removes rules from a tier of a client and then adds rules at its end. -/
def updateTier (s : Store) (client : String) (tier : Tier) (add : List Rule) (remove : List Int) :
    Except StoreFault (TierUpdate × Store) :=
  let c := s.rulesOf client
  let kept := kept (c.tier tier) remove
  let rules := kept ++ add
  if s.limits.tier tier < rules.length then
    .error (.tierFull tier rules.length (s.limits.tier tier))
  else
    .ok (⟨tier, add.length, (c.tier tier).length - kept.length, rules.length⟩,
      { s with clients := s.clients.set client (c.setTier tier rules) })

/-! ## Clients -/

/-- Removes a client; the answer is whether it was known. -/
def removeClient (s : Store) (client : String) : Bool × Store :=
  (s.has client, { s with clients := s.clients.erase client })

end Store

end ContentBlocker
