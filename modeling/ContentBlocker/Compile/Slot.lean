import ContentBlocker.Compile.Service
import ContentBlocker.Failure.Basic
import ContentBlocker.RuleList.Conversion

/-!
# Slots

A slot holds what is known of the compiled list of one client: how the last compilation ended, the
list that is in use and the text of the last failure.
-/

namespace ContentBlocker

inductive CompileState where
  | uninitialized
  | compiling
  | compiled
  | failed
deriving DecidableEq, Repr

def CompileState.name : CompileState → String
  | uninitialized => "uninitialized"
  | compiling => "compiling"
  | compiled => "compiled"
  | failed => "failed"

structure Slot where
  state : CompileState
  artifact : Option Artifact
  lastError : Option Text
deriving DecidableEq, Repr

namespace Slot

def empty : Slot := ⟨.uninitialized, none, none⟩

/-- Whether the slot says no more than that there is nothing to say. -/
def isVacant (s : Slot) : Bool := s.state = .uninitialized && s.artifact.isNone

/-- After a compilation that succeeded. -/
def succeed (a : Artifact) : Slot := ⟨.compiled, some a, none⟩

/-- After a compilation that failed; the list in use stays in use. -/
def fail (s : Slot) (text : Text) : Slot := { s with state := .failed, lastError := some text }

end Slot

/-! ## Summaries -/

/-- What a compilation did. -/
structure Summary where
  client : String
  identifier : String
  total : Nat
  emitted : Nat
  degraded : List Int
  dropped : List Int
  sha256 : String
  /-- there were no rules to compile -/
  skipped : Bool
  /-- the client was removed in the meantime -/
  discarded : Bool
deriving DecidableEq, Repr

namespace Summary

def ofSkipped (client : String) : Summary :=
  ⟨client, listIdentifier client, 0, 0, [], [], "", true, false⟩

def ofConversion (client : String) (c : RuleList.Conversion) (a : Artifact) : Summary :=
  ⟨client, listIdentifier client, c.total, c.entries.length, c.degraded, c.dropped, a.sha256, false,
    false⟩

def toJson (s : Summary) : Json :=
  .obj
    [("clientId", .str s.client),
      ("identifier", .str s.identifier),
      ("total", .int s.total),
      ("emitted", .int s.emitted),
      ("degraded", .int s.degraded.length),
      ("dropped", .int s.dropped.length),
      ("degradedRuleIds", .ints s.degraded),
      ("droppedRuleIds", .ints s.dropped),
      ("sha256", .str s.sha256),
      ("skipped", .bool s.skipped),
      ("discarded", .bool s.discarded)]

end Summary

/-- The text of a compilation that failed in a service. -/
def compilationText (r : Report) : Text :=
  if r.origin = .caller .compilationFailed then r.text
  else "Rule compilation failed: " ++ r.text

end ContentBlocker
