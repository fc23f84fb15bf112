import ContentBlocker.Compile.Slot
import ContentBlocker.Store.Basic

/-!
# Compiling at once

Where no two compilations overlap, a compilation is one step: it converts the merged rules of a
client, hands the document to the service and puts the outcome into the client's slot.  Whoever waits
for each answer of a `Scheduler` whose gates are open has such a compiler.
-/

namespace ContentBlocker

/-- The slots of the clients, and the state of the service behind them. -/
structure Compiler (σ : Type) where
  slots : Table String Slot
  service : σ

namespace Compiler

variable {σ : Type}

def slotOf (c : Compiler σ) (client : String) : Slot := (c.slots.get? client).getD .empty

/-- Compiles rules for a client.  Without rules nothing changes. -/
def compile (service : Service σ) (c : Compiler σ) (client : String) (rules : List Rule) :
    Except Failure Summary × Compiler σ :=
  if rules.isEmpty then (.ok (.ofSkipped client), c)
  else
    let conversion := RuleList.Conversion.ofRules rules
    match service.compile (listIdentifier client) conversion.document c.service with
    | (.ok a, state) =>
      (.ok (.ofConversion client conversion a), ⟨c.slots.set client (.succeed a), state⟩)
    | (.error r, state) =>
      let text := compilationText r
      (.error (.compilation client text),
        ⟨c.slots.set client ((c.slotOf client).fail text), state⟩)

/-- Forgets the list of a client, and removes it from the service if there is one; the answer is
whether there was.  A removal that fails is not reported. -/
def discard (service : Service σ) (c : Compiler σ) (client : String) : Bool × Compiler σ :=
  let slots := c.slots.erase client
  if (c.slotOf client).artifact.isSome then
    (true, ⟨slots, (service.remove (listIdentifier client) c.service).2⟩)
  else (false, ⟨slots, c.service⟩)

end Compiler

end ContentBlocker
