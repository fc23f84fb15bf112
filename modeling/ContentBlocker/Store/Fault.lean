import ContentBlocker.Failure.Report
import ContentBlocker.Store.Tier

/-!
# Why the store refuses a change

A change is refused if it would exceed a limit or if it speaks of rulesets that are not there.
-/

namespace ContentBlocker

inductive StoreFault where
  | tooManyRulesets (count : Nat) (limit : Int)
  | tooManyEnabled (count : Nat) (limit : Int)
  | tierFull (tier : Tier) (count : Nat) (limit : Int)
  /-- the client has no rules at all -/
  | noRulesets
  | unknownRuleset (shown : Text)
deriving DecidableEq, Repr

namespace StoreFault

def kind : StoreFault → FailureKind
  | tooManyRulesets .. | tooManyEnabled .. | tierFull .. => .quotaExceeded
  | noRulesets | unknownRuleset _ => .rulesetNotFound

def message (client : String) : StoreFault → Text
  | tooManyRulesets count limit => s!"Too many static rulesets ({count} > {limit})."
  | tooManyEnabled count limit => s!"Too many enabled static rulesets ({count} > {limit})."
  | tierFull tier count limit => s!"{tier.title} rule quota exceeded ({count} > {limit})."
  | noRulesets => s!"No rulesets loaded for {client}."
  | unknownRuleset shown => "Unknown static ruleset: " ++ shown

end StoreFault

end ContentBlocker
