import ContentBlocker.Compile.Direct
import ContentBlocker.Manager.Arguments

/-!
# The manager

The manager changes the rules of clients and compiles them before it answers.  An operation that is
refused changes nothing; one whose compilation fails has changed the rules, and the list that was in
use stays in use.
-/

namespace ContentBlocker

structure Manager (σ : Type) where
  store : Store
  compiler : Compiler σ

/-- What a change of rules did. -/
structure UpdateResult where
  added : Nat
  removed : Nat
  rejected : List Rejected
  compile : Summary

def UpdateResult.toJson (r : UpdateResult) : Json :=
  .obj
    [("added", .int r.added),
      ("removed", .int r.removed),
      ("skippedInvalid", .int r.rejected.length),
      ("invalid", .texts (r.rejected.map (·.message))),
      ("compile", r.compile.toJson)]

namespace Manager

variable {σ : Type}

def fresh (limits : Limits) (state : σ) : Manager σ := ⟨.empty limits, ⟨[], state⟩⟩

/-- The answer of an operation with the manager after it. -/
abbrev Step (σ α : Type) := Except Failure α × Manager σ

/-- The step that compiles the rules that a client has in a new store. -/
def recompiled {α : Type} (service : Service σ) (m : Manager σ) (client : String) (store : Store)
    (answer : Summary → α) : Step σ α :=
  let (outcome, compiler) := m.compiler.compile service client (store.rulesOf client).merged
  (outcome.map answer, ⟨store, compiler⟩)

/-! ## Static rules -/

def loadStaticRules (service : Service σ) (m : Manager σ) (client : String) (rules : Json) :
    Step σ UpdateResult :=
  match Batch.ofJson rules with
  | .error d => (.error (.defect d), m)
  | .ok batch =>
    match m.store.loadStatic client batch.rules with
    | .error fault => (.error (.store client fault), m)
    | .ok (_, store) =>
      m.recompiled service client store fun s => ⟨batch.rules.length, 0, batch.rejected, s⟩

def loadRulesets (service : Service σ) (m : Manager σ) (client : String) (rulesets : Json) :
    Step σ UpdateResult :=
  match Ruleset.listOfJson client rulesets with
  | .error failure => (.error failure, m)
  | .ok (rulesets, rejected) =>
    match m.store.loadRulesets client rulesets with
    | .error fault => (.error (.store client fault), m)
    | .ok (added, store) => m.recompiled service client store fun s => ⟨added, 0, rejected, s⟩

def switchRulesets (service : Service σ) (m : Manager σ) (client : String)
    (enable disable : Json) : Step σ Summary :=
  match rulesetIds m.store client enable disable with
  | .error failure => (.error failure, m)
  | .ok (enable, disable) =>
    match m.store.switchRulesets client enable disable with
    | .error fault => (.error (.store client fault), m)
    | .ok (_, store) => m.recompiled service client store id

/-! ## Tiers -/

def updateTier (service : Service σ) (m : Manager σ) (client : String) (tier : Tier)
    (add remove : Json) : Step σ UpdateResult :=
  match Batch.ofJson add with
  | .error d => (.error (.defect d), m)
  | .ok batch =>
    match ruleIds remove with
    | .error d => (.error (.defect d), m)
    | .ok ids =>
      match m.store.updateTier client tier batch.rules ids with
      | .error fault => (.error (.store client fault), m)
      | .ok (update, store) =>
        m.recompiled service client store fun s =>
          ⟨update.added, update.removed, batch.rejected, s⟩

/-! ## Reading -/

def rules (m : Manager σ) (client : String) (tier : Tier) : List Rule :=
  (m.store.rulesOf client).tier tier

def enabledRulesets (m : Manager σ) (client : String) : List Text :=
  (m.store.rulesOf client).enabled

def ruleList (m : Manager σ) (client : String) : Option Artifact :=
  (m.compiler.slotOf client).artifact

def state (m : Manager σ) (client : String) : CompileState := (m.compiler.slotOf client).state

def lastError (m : Manager σ) (client : String) : Option Text :=
  (m.compiler.slotOf client).lastError

/-! ## Clients -/

def recompile (service : Service σ) (m : Manager σ) (client : String) : Step σ Summary :=
  if m.store.has client then m.recompiled service client m.store id
  else (.error (.noRules client), m)

/-- Removes all that is kept for a client. -/
def removeRules (service : Service σ) (m : Manager σ) (client : String) : Step σ Unit :=
  let (hadRules, store) := m.store.removeClient client
  let (hadList, compiler) := m.compiler.discard service client
  (if hadRules || hadList then .ok () else .error (.noRules client), ⟨store, compiler⟩)

end Manager

end ContentBlocker
