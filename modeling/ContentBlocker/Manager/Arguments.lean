import ContentBlocker.Failure.Basic
import ContentBlocker.Json.Number
import ContentBlocker.Rule.Batch
import ContentBlocker.Store.Basic

/-!
# Arguments of the manager

The manager takes its arguments as JSON values of any kind.  What does not fit is a defect, unless
the request itself is refused.
-/

namespace ContentBlocker

/-! ## Ids of rules -/

/-- The ids that a value lists, up to equality of numbers.  Values that equal no number remove
nothing. -/
def ruleIds (v : Json) : Except Defect (List Int) := do
  let items ← v.valuesOrNone
  items.forM Json.hashable
  pure (items.filterMap Json.whole?)

/-! ## Ids of rulesets -/

/-- The ruleset ids of a client, if the client is known. -/
def Store.rulesetIds? (s : Store) (client : String) : Option (List Text) :=
  (s.clients.get? client).map fun c => c.rulesets.map (·.id)

/-- The text that names one of the known rulesets. -/
def rulesetId (known : List Text) (v : Json) : Except StoreFault Text :=
  match v with
  | .str id => if known.contains id then .ok id else .error (.unknownRuleset id)
  | v => .error (.unknownRuleset v.shown)

/-- The rulesets to switch on and to switch off, as far as they are known. -/
def rulesetIds (s : Store) (client : String) (enable disable : Json) :
    Except Failure (List Text × List Text) := do
  let enable ← enable.valuesOrNone.mapError .defect
  let disable ← disable.valuesOrNone.mapError .defect
  match s.rulesetIds? client with
  | none => .error (.store client .noRulesets)
  | some known =>
    (enable ++ disable).forM fun v => v.hashable.mapError .defect
    let enable ← enable.mapM fun v => (rulesetId known v).mapError (.store client)
    let disable ← disable.mapM fun v => (rulesetId known v).mapError (.store client)
    pure (enable, disable)

/-! ## Rulesets -/

/-- The text that is the id of a ruleset. -/
def rulesetName? (fields : Fields) : Option Text :=
  match fields.get? "id" with
  | some (.str id) => if id.isEmpty then none else some id
  | _ => none

/-- A ruleset and the malformed entries of its rules. -/
def Ruleset.ofJson (client : String) (v : Json) : Except Failure (Ruleset × List Rejected) :=
  let refused := Failure.request (some client) .rulesetWithoutId
  match v with
  | .obj fields =>
    match rulesetName? fields with
    | none => .error refused
    | some id =>
      match Batch.ofJson ((Table.get? fields "rules").getD .null) with
      | .error d => .error (.defect d)
      | .ok batch =>
        let enabled := ((Table.get? fields "enabled").bind Json.bool?) = some true
        .ok (⟨id, enabled, batch.rules⟩, batch.rejected)
  | _ => .error refused

/-- Rulesets and the malformed entries of all of them, in order. -/
def Ruleset.listOfJson (client : String) (v : Json) :
    Except Failure (List Ruleset × List Rejected) := do
  let items ← v.values.mapError .defect
  let loaded ← items.mapM (ofJson client)
  pure (loaded.map (·.1), loaded.flatMap (·.2))

end ContentBlocker
