import ContentBlocker.Rule.Basic

/-!
# Rules as JSON

A rule is written as an object with the fields that it has, in a fixed order.
-/

namespace ContentBlocker

def Redirect.toJson (r : Redirect) : Json :=
  .obj (Table.present
    [("url", r.url.map .str),
      ("extensionPath", r.extensionPath.map .str),
      ("transform", r.transform.map .obj),
      ("regexSubstitution", r.regexSubstitution.map .str)])

def HeaderChange.toJson (h : HeaderChange) : Json :=
  .obj (Table.present
    [("header", some (.str h.header)),
      ("operation", some (.str h.operation)),
      ("value", h.value.map .str)])

def Action.toJson (a : Action) : Json :=
  .obj (Table.present
    [("type", some (.str a.type.name)),
      ("redirect", a.redirect.map (·.toJson)),
      ("requestHeaders", a.requestHeaders.map fun hs => .arr (hs.map (·.toJson))),
      ("responseHeaders", a.responseHeaders.map fun hs => .arr (hs.map (·.toJson)))])

def Condition.toJson (c : Condition) : Json :=
  .obj (Table.present
    [("urlFilter", c.urlFilter.map .str),
      ("regexFilter", c.regexFilter.map .str),
      ("isUrlFilterCaseSensitive", c.isUrlFilterCaseSensitive.map .bool),
      ("initiatorDomains", c.initiatorDomains.map .texts),
      ("excludedInitiatorDomains", c.excludedInitiatorDomains.map .texts),
      ("requestDomains", c.requestDomains.map .texts),
      ("excludedRequestDomains", c.excludedRequestDomains.map .texts),
      ("domains", c.domains.map .texts),
      ("excludedDomains", c.excludedDomains.map .texts),
      ("resourceTypes", c.resourceTypes.map .texts),
      ("excludedResourceTypes", c.excludedResourceTypes.map .texts),
      ("requestMethods", c.requestMethods.map .texts),
      ("excludedRequestMethods", c.excludedRequestMethods.map .texts),
      ("domainType", c.party.map fun p => .str p.name),
      ("tabIds", c.tabIds.map .ints),
      ("excludedTabIds", c.excludedTabIds.map .ints)])

def Rule.toJson (r : Rule) : Json :=
  .obj (Table.present
    [("id", some (.int r.id)),
      ("priority", r.priority.map .int),
      ("action", some r.action.toJson),
      ("condition", some r.condition.toJson)])

end ContentBlocker
