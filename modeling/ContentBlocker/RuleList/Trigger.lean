import ContentBlocker.Rule.Basic
import ContentBlocker.RuleList.UrlFilter
import ContentBlocker.RuleList.Vocabulary
import ContentBlocker.Text.Blank
import ContentBlocker.Text.Lower

/-!
# Triggers

A trigger says what loads an entry applies to.  `Trigger.ofCondition?` gives the trigger of a rule's
condition, or none if the condition names only kinds of loads that triggers do not know: without
them the entry would apply to every load.
-/

namespace ContentBlocker.RuleList

structure Trigger where
  urlFilter : Text
  caseSensitive : Bool
  resourceTypes : Option (List ResourceType)
  loadType : Option LoadType
  ifDomain : Option (List Text)
  unlessDomain : Option (List Text)
deriving DecidableEq, Repr

/-! ## Kinds of loads -/

/-- The kind of loads that a lower-case word of a rule names. -/
def ResourceType.ofWord? : String → Option ResourceType
  | "main_frame" => some .document
  | "sub_frame" => some .document
  | "stylesheet" => some .styleSheet
  | "script" => some .script
  | "image" => some .image
  | "font" => some .font
  | "xmlhttprequest" => some .fetch
  | "ping" => some .ping
  | "media" => some .media
  | "websocket" => some .websocket
  | _ => none

/-- The kind of loads that a word of a rule names, in whatever case. -/
def ResourceType.named? (word : Text) : Option ResourceType :=
  (Text.lower word).string?.bind ofWord?

/-- The kinds of loads that words name, each once, in the order of their first mention. -/
def ResourceType.ofWords (words : List Text) : List ResourceType :=
  (words.filterMap named?).eraseDups

/-- A list that is there and not empty. -/
def nonEmpty? {α : Type} : Option (List α) → Option (List α)
  | some (x :: xs) => some (x :: xs)
  | _ => none

/-- The kinds of loads that a condition restricts a rule to, if it does. -/
def ResourceType.ofCondition (c : Condition) : Option (List ResourceType) :=
  match nonEmpty? c.resourceTypes, nonEmpty? c.excludedResourceTypes with
  | some words, _ => some (ofWords words)
  | none, some words => some (all.filter fun t => !(ofWords words).contains t)
  | none, none => none

/-! ## Domains -/

/-- The pattern of a domain and those below it; blanks are no domain. -/
def domainPattern? (domain : Text) : Option Text :=
  match Text.trim domain with
  | [] => none
  | s => some ("*" ++ Text.lower s)

/-- The patterns of the first list of domains that is there and not empty. -/
def domainPatterns (candidates : List (Option (List Text))) : List Text :=
  ((candidates.findSome? nonEmpty?).getD []).filterMap domainPattern?

/-- The patterns, if there are any. -/
def domainPatterns? (candidates : List (Option (List Text))) : Option (List Text) :=
  nonEmpty? (some (domainPatterns candidates))

/-! ## Conditions -/

def LoadType.ofParty : Party → LoadType
  | .first => .firstParty
  | .third => .thirdParty

/-- The pattern of a condition: that of its filter, else its own pattern, else every address. -/
def patternOf (c : Condition) : Text :=
  match c.urlFilter, c.regexFilter with
  | some filter, _ => UrlFilter.pattern filter
  | none, some pattern => pattern
  | none, none => UrlFilter.matchAll

/-- The trigger of a condition with kinds of loads that are known. -/
def Trigger.withTypes (c : Condition) (types : Option (List ResourceType)) : Trigger where
  urlFilter := patternOf c
  caseSensitive := c.isUrlFilterCaseSensitive = some true
  resourceTypes := types
  loadType := c.party.map .ofParty
  ifDomain := domainPatterns? [c.initiatorDomains, c.domains, c.requestDomains]
  unlessDomain :=
    domainPatterns? [c.excludedInitiatorDomains, c.excludedDomains, c.excludedRequestDomains]

def Trigger.ofCondition? (c : Condition) : Option Trigger :=
  match ResourceType.ofCondition c with
  | some [] => none
  | types => some (withTypes c types)

end ContentBlocker.RuleList
