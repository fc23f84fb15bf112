import ContentBlocker.Json.Printer
import ContentBlocker.RuleList.Entry

/-!
# Rules as a rule list

The conversion of a list of rules keeps the entries of the rules that have one, in order, and tells
which rules were weakened and which were dropped.
-/

namespace ContentBlocker.RuleList

structure Conversion where
  entries : List Entry
  /-- the number of rules -/
  total : Nat
  /-- the ids of the rules whose entries do less than asked for -/
  degraded : List Int
  /-- the ids of the rules without an entry -/
  dropped : List Int
deriving DecidableEq, Repr

namespace Conversion

/-- The id of a rule, if its entry does less than asked for. -/
def degradedId? : Rule × Option Entry → Option Int
  | (rule, some _) => if weakens rule.action.type then some rule.id else none
  | (_, none) => none

/-- The id of a rule without an entry. -/
def droppedId? : Rule × Option Entry → Option Int
  | (_, some _) => none
  | (rule, none) => some rule.id

def ofRules (rules : List Rule) : Conversion :=
  let converted := rules.map fun rule => (rule, Entry.ofRule? rule)
  { entries := converted.filterMap (·.2)
    total := rules.length
    degraded := converted.filterMap degradedId?
    dropped := converted.filterMap droppedId? }

def toJson (c : Conversion) : Json := .arr (c.entries.map (·.toJson))

/-- The rule list as a document. -/
def document (c : Conversion) : String := c.toJson.pretty

end Conversion

end ContentBlocker.RuleList
