import ContentBlocker.Message.Handling

/-!
# Operations of the manager

What a manager can be asked for, as one type, so that a sequence of operations on any clients is a
list.  Reading changes nothing.
-/

namespace ContentBlocker.Manager

inductive Operation where
  | loadStaticRules (client : String) (rules : Json)
  | loadRulesets (client : String) (rulesets : Json)
  | updateTier (client : String) (tier : Tier) (add remove : Json)
  | switchRulesets (client : String) (enable disable : Json)
  | recompile (client : String)
  | removeRules (client : String)
  | getTier (client : String) (tier : Tier)
  | getEnabledRulesets (client : String)
  | getRuleList (client : String)
  | message (client : Option String) (body : Json)

/-- The client that an operation is for, if it names one. -/
def Operation.client? : Operation → Option String
  | loadStaticRules client _ | loadRulesets client _ | updateTier client _ _ _
  | switchRulesets client _ _ | recompile client | removeRules client | getTier client _
  | getEnabledRulesets client | getRuleList client => some client
  | message client _ => client

inductive Answer where
  | update (r : UpdateResult)
  | summary (s : Summary)
  | rules (rs : List Rule)
  | rulesets (ids : List Text)
  | ruleList (a : Option Artifact)
  | removed
  | message (answer : Json)

variable {σ : Type}

/-- Does what an operation asks for; answers to messages show internal errors if `expose` holds. -/
def operate (service : Service σ) (expose : Bool) (m : Manager σ) : Operation → Step σ Answer
  | .loadStaticRules client rules =>
    let (outcome, m) := m.loadStaticRules service client rules
    (outcome.map .update, m)
  | .loadRulesets client rulesets =>
    let (outcome, m) := m.loadRulesets service client rulesets
    (outcome.map .update, m)
  | .updateTier client tier add remove =>
    let (outcome, m) := m.updateTier service client tier add remove
    (outcome.map .update, m)
  | .switchRulesets client enable disable =>
    let (outcome, m) := m.switchRulesets service client enable disable
    (outcome.map .summary, m)
  | .recompile client =>
    let (outcome, m) := m.recompile service client
    (outcome.map .summary, m)
  | .removeRules client =>
    let (outcome, m) := m.removeRules service client
    (outcome.map fun () => .removed, m)
  | .getTier client tier => (.ok (.rules (m.rules client tier)), m)
  | .getEnabledRulesets client => (.ok (.rulesets (m.enabledRulesets client)), m)
  | .getRuleList client => (.ok (.ruleList (m.ruleList client)), m)
  | .message client body =>
    let (answer, m) := handleMessage expose (perform service) client body m
    (.ok (.message answer), m)

/-- The manager after an operation. -/
def after (service : Service σ) (expose : Bool) (m : Manager σ) (op : Operation) : Manager σ :=
  (m.operate service expose op).2

/-- The manager after operations in order. -/
def replay (service : Service σ) (expose : Bool) (m : Manager σ) (ops : List Operation) :
    Manager σ :=
  ops.foldl (after service expose) m

end ContentBlocker.Manager
