import ContentBlocker.Json.Basic

/-!
# Rules

A rule asks for an action on the loads that meet its condition.  Every field of a condition is
optional; a field that is absent restricts nothing.
-/

namespace ContentBlocker

/-! ## Words -/

inductive ActionType where
  | block
  | allow
  | allowAllRequests
  | upgradeScheme
  | redirect
  | modifyHeaders
deriving DecidableEq, Repr

namespace ActionType

def name : ActionType → String
  | block => "block"
  | allow => "allow"
  | allowAllRequests => "allowAllRequests"
  | upgradeScheme => "upgradeScheme"
  | redirect => "redirect"
  | modifyHeaders => "modifyHeaders"

def all : List ActionType :=
  [block, allow, allowAllRequests, upgradeScheme, redirect, modifyHeaders]

def named? (s : Text) : Option ActionType := all.find? fun t => t.name = s

theorem named?_name (t : ActionType) : named? t.name = some t := by
  cases t <;> decide

end ActionType

/-- Whether a load goes to the site of the page or to another. -/
inductive Party where
  | first
  | third
deriving DecidableEq, Repr

namespace Party

def name : Party → String
  | first => "firstParty"
  | third => "thirdParty"

def named? (s : Text) : Option Party := [first, third].find? fun p => p.name = s

theorem named?_name (p : Party) : named? p.name = some p := by
  cases p <;> decide

end Party

/-! ## Actions -/

/-- Where a load is sent instead. -/
structure Redirect where
  url : Option Text
  extensionPath : Option Text
  transform : Option Fields
  regexSubstitution : Option Text

/-- What happens to one header. -/
structure HeaderChange where
  header : Text
  operation : Text
  value : Option Text
deriving DecidableEq, Repr

structure Action where
  type : ActionType
  redirect : Option Redirect
  requestHeaders : Option (List HeaderChange)
  responseHeaders : Option (List HeaderChange)

/-! ## Conditions -/

structure Condition where
  urlFilter : Option Text
  regexFilter : Option Text
  isUrlFilterCaseSensitive : Option Bool
  initiatorDomains : Option (List Text)
  excludedInitiatorDomains : Option (List Text)
  requestDomains : Option (List Text)
  excludedRequestDomains : Option (List Text)
  domains : Option (List Text)
  excludedDomains : Option (List Text)
  resourceTypes : Option (List Text)
  excludedResourceTypes : Option (List Text)
  requestMethods : Option (List Text)
  excludedRequestMethods : Option (List Text)
  party : Option Party
  tabIds : Option (List Int)
  excludedTabIds : Option (List Int)
deriving DecidableEq, Repr

/-! ## Rules -/

structure Rule where
  id : Int
  priority : Option Int
  action : Action
  condition : Condition

end ContentBlocker
