import ContentBlocker.Defect
import ContentBlocker.Failure.Request
import ContentBlocker.Store.Fault

/-!
# Failures

A failure of an operation says what went wrong and, where the operation was for a client, for which
one.  `report` is what can be told of it.
-/

namespace ContentBlocker

inductive Failure where
  | store (client : String) (fault : StoreFault)
  /-- the list of a client could not be compiled -/
  | compilation (client : String) (text : Text)
  /-- the client has no rules -/
  | noRules (client : String)
  | request (client : Option String) (fault : RequestFault)
  | defect (d : Defect)
deriving DecidableEq, Repr

namespace Failure

def report : Failure → Report
  | store client fault => ⟨.caller fault.kind, fault.message client⟩
  | compilation _ text => ⟨.caller .compilationFailed, text⟩
  | noRules client => ⟨.caller .rulesetNotFound, s!"No rules loaded for {client}."⟩
  | request _ fault => ⟨.caller .invalidRequest, fault.message⟩
  | defect d => d.report

/-- The client that the failed operation was for. -/
def client? : Failure → Option String
  | store client _ | compilation client _ | noRules client => some client
  | request client _ => client
  | defect _ => none

end Failure

end ContentBlocker
