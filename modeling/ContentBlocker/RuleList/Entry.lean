import ContentBlocker.Rule.Writing
import ContentBlocker.RuleList.Trigger

/-!
# Entries

An entry is a trigger with an effect.  `Entry.ofRule?` gives the entry of a rule, or none if no
entry can stand for it.
-/

namespace ContentBlocker.RuleList

structure Entry where
  trigger : Trigger
  effect : Effect
deriving DecidableEq, Repr

/-! ## Entries of rules -/

/-- The effect that stands for an action.  No effect changes headers. -/
def Effect.ofAction? : ActionType → Option Effect
  | .block => some .block
  | .allow => some .ignorePreviousRules
  | .allowAllRequests => some .ignorePreviousRules
  | .upgradeScheme => some .makeHttps
  | .redirect => some .block
  | .modifyHeaders => none

/-- Whether the effect that stands for an action does less than the action asks for. -/
def weakens : ActionType → Bool
  | .redirect => true
  | _ => false

def Entry.ofRule? (rule : Rule) : Option Entry := do
  let effect ← Effect.ofAction? rule.action.type
  let trigger ← Trigger.ofCondition? rule.condition
  pure ⟨trigger, effect⟩

/-! ## Entries as JSON -/

def Trigger.toJson (t : Trigger) : Json :=
  .obj (Table.present
    [("url-filter", some (.str t.urlFilter)),
      ("url-filter-is-case-sensitive", if t.caseSensitive then some (.bool true) else none),
      ("resource-type", t.resourceTypes.map fun ts => .strings (ts.map (·.name))),
      ("load-type", t.loadType.map fun l => .strings [l.name]),
      ("if-domain", t.ifDomain.map .texts),
      ("unless-domain", t.unlessDomain.map .texts)])

def Entry.toJson (e : Entry) : Json :=
  .obj [("trigger", e.trigger.toJson), ("action", .obj [("type", .str e.effect.name)])]

end ContentBlocker.RuleList
