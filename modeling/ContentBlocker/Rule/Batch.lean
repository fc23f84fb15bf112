import ContentBlocker.Defect
import ContentBlocker.Rule.Reading

/-!
# Batches of rules

A batch is read entry by entry: a malformed entry is reported with its position and does not stop
the others.
-/

namespace ContentBlocker

/-- An entry of a batch that is no rule. -/
structure Rejected where
  index : Nat
  fault : RuleFault
deriving DecidableEq, Repr

namespace Rejected

def message (r : Rejected) : Text := s!"rules[{r.index}]: " ++ r.fault.message

def ruleId (r : Rejected) : Option Int := r.fault.ruleId

end Rejected

/-- The rules of a batch and its malformed entries, both in order. -/
structure Batch where
  rules : List Rule
  rejected : List Rejected

namespace Batch

/-- The rule that a reading gave. -/
def accepted? : Except RuleFault Rule → Option Rule
  | .ok rule => some rule
  | .error _ => none

/-- The fault that a reading gave, with its position. -/
def rejected? : Except RuleFault Rule × Nat → Option Rejected
  | (.ok _, _) => none
  | (.error fault, index) => some ⟨index, fault⟩

def ofItems (items : List Json) : Batch :=
  let readings := items.map Rule.ofJson
  ⟨readings.filterMap accepted?, readings.zipIdx.filterMap rejected?⟩

/-- The batch of a value that stands for several; a void value is an empty batch. -/
def ofJson (v : Json) : Except Defect Batch := v.valuesOrNone.map ofItems

end Batch

end ContentBlocker
