import ContentBlocker.Failure.Report

/-!
# Compilation services

A service compiles documents under identifiers, each of which names at most one compiled list, and
removes lists again.  What a service remembers is a state of its own.
-/

namespace ContentBlocker

/-- A compiled rule list. -/
structure Artifact where
  identifier : String
  sha256 : String
  ruleCount : Nat
  encoded : String
deriving DecidableEq, Repr

/-- A service with states in `σ`. -/
structure Service (σ : Type) where
  compile : String → String → σ → Except Report Artifact × σ
  remove : String → σ → Except Report Unit × σ

/-- The identifier of a client's list. -/
def listIdentifier (client : String) : String := s!"extension-{client}-rules"

end ContentBlocker
