/-!
# The words of rule lists

A rule list is a document for a content blocker: entries with a trigger, which says what loads they
apply to, and an effect.  These are the words that its fields may use.
-/

namespace ContentBlocker.RuleList

/-! ## Kinds of loads -/

inductive ResourceType where
  | document
  | image
  | styleSheet
  | script
  | font
  | raw
  | svgDocument
  | media
  | popup
  | ping
  | fetch
  | websocket
  | other
deriving DecidableEq, Repr

namespace ResourceType

def name : ResourceType → String
  | document => "document"
  | image => "image"
  | styleSheet => "style-sheet"
  | script => "script"
  | font => "font"
  | raw => "raw"
  | svgDocument => "svg-document"
  | media => "media"
  | popup => "popup"
  | ping => "ping"
  | fetch => "fetch"
  | websocket => "websocket"
  | other => "other"

/-- All kinds, in the order in which lists name them. -/
def all : List ResourceType :=
  [document, image, styleSheet, script, font, raw, svgDocument, media, popup, ping, fetch,
    websocket, other]

theorem mem_all (t : ResourceType) : t ∈ all := by
  cases t <;> decide

end ResourceType

/-! ## Sites of loads -/

/-- Whether a load goes to the site of the page or to another. -/
inductive LoadType where
  | firstParty
  | thirdParty
deriving DecidableEq, Repr

namespace LoadType

def name : LoadType → String
  | firstParty => "first-party"
  | thirdParty => "third-party"

def all : List LoadType := [firstParty, thirdParty]

end LoadType

/-! ## Effects -/

/-- What an entry does to the loads that its trigger applies to. -/
inductive Effect where
  | block
  | blockCookies
  | hideElements
  | ignorePreviousRules
  | makeHttps
deriving DecidableEq, Repr

namespace Effect

def name : Effect → String
  | block => "block"
  | blockCookies => "block-cookies"
  | hideElements => "css-display-none"
  | ignorePreviousRules => "ignore-previous-rules"
  | makeHttps => "make-https"

def all : List Effect := [block, blockCookies, hideElements, ignorePreviousRules, makeHttps]

end Effect

/-! ## Words -/

def resourceTypes : List String := ResourceType.all.map (·.name)

def loadTypes : List String := LoadType.all.map (·.name)

def actionTypes : List String := Effect.all.map (·.name)

/-- The fields of a trigger that list domains or addresses of pages. -/
def domainFields : List String := ["if-domain", "unless-domain", "if-top-url", "unless-top-url"]

/-- The most entries of a rule list. -/
def entryBound : Nat := 150000

end ContentBlocker.RuleList
