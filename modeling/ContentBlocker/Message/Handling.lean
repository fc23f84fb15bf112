import ContentBlocker.Manager.Basic
import ContentBlocker.Message.Request

/-!
# Handling messages

A message is always answered: with the result of what it asks for, or with what can be told of the
failure.
-/

namespace ContentBlocker

/-- The answer with a result. -/
def resultAnswer (result : Json) : Json := .obj [("ok", .bool true), ("result", result)]

/-- The answer that tells how something ended. -/
def outcomeAnswer (expose : Bool) : Except Report Json → Json
  | .ok result => resultAnswer result
  | .error r => r.answer expose

/-- What comes of a message.  `perform` does what a client asks for; a message that asks for nothing
that can be done changes nothing. -/
def runMessage {σ : Type} (perform : String → Request → σ → Except Report Json × σ)
    (client : Option String) (body : Json) (state : σ) : Except Report Json × σ :=
  match Request.ofMessage client body with
  | .error fault => (.error (Failure.request none fault).report, state)
  | .ok (client, request) => perform client request state

/-- Answers a message. -/
def handleMessage {σ : Type} (expose : Bool)
    (perform : String → Request → σ → Except Report Json × σ) (client : Option String)
    (body : Json) (state : σ) : Json × σ :=
  let (outcome, state) := runMessage perform client body state
  (outcomeAnswer expose outcome, state)

namespace Manager

variable {σ : Type}

def jsonRules (rules : List Rule) : Json := .arr (rules.map (·.toJson))

/-- Does what a client asks for. -/
def performRequest (service : Service σ) (client : String) (request : Request) (m : Manager σ) :
    Step σ Json :=
  match request with
  | .updateTier tier add remove =>
    let (outcome, m) := m.updateTier service client tier (.arr add) (.ints remove)
    (outcome.map (·.toJson), m)
  | .getTier tier => (.ok (jsonRules (m.rules client tier)), m)
  | .getEnabledRulesets => (.ok (.texts (m.enabledRulesets client)), m)
  | .updateEnabledRulesets enable disable =>
    let (outcome, m) := m.switchRulesets service client (.texts enable) (.texts disable)
    (outcome.map fun s =>
      .obj
        [("enabledRulesets", .texts (m.enabledRulesets client)), ("compile", s.toJson)], m)

/-- As `performRequest`, with what can be told of a failure. -/
def perform (service : Service σ) (client : String) (request : Request) (m : Manager σ) :
    Except Report Json × Manager σ :=
  let (outcome, m) := m.performRequest service client request
  (outcome.mapError (·.report), m)

end Manager

end ContentBlocker
