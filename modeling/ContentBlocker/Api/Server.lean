import ContentBlocker.Api.Body
import ContentBlocker.Api.Route
import ContentBlocker.Compile.Archive
import ContentBlocker.Message.Handling

/-!
# The server

The server answers requests on the manager: messages of clients, whole sets of static rules, and
questions about what is kept.  Every answer has the same protective headers.
-/

namespace ContentBlocker.Api

structure Config where
  /-- whether answers show internal errors -/
  expose : Bool
  /-- the most bytes of a body -/
  bodyLimit : Nat
  /-- whether the archive can be opened -/
  archiveOpen : Bool

def standardBodyLimit : Nat := 16 * 1024 * 1024

def Config.service (c : Config) : Service Archive :=
  if c.archiveOpen then Archive.service else Archive.closedService

structure Request where
  verb : Verb
  target : String
  body : Body

structure Response where
  status : Nat
  body : Option Json

/-- Headers of every answer. -/
def headers : List (String × String) :=
  [("X-Content-Type-Options", "nosniff"),
    ("X-Frame-Options", "SAMEORIGIN"),
    ("Referrer-Policy", "strict-origin-when-cross-origin"),
    ("Cache-Control", "no-store")]

/-! ## Answers -/

/-- The status of an answer that tells of a failure. -/
def statusOf : Origin → Nat
  | .caller .invalidRequest | .caller .invalidRule => 400
  | .caller .rulesetNotFound => 404
  | .caller .quotaExceeded => 409
  | .caller .compilationFailed => 502
  | .caller .general | .value | .internal _ => 500

/-- The answer that tells how something ended. -/
def outcomeResponse (config : Config) (outcome : Except Report Json) : Response :=
  let status := match outcome with
    | .ok _ => 200
    | .error r => statusOf r.origin
  ⟨status, some (outcomeAnswer config.expose outcome)⟩

def ok (result : Json) : Response := ⟨200, some (resultAnswer result)⟩

/-- What can be told of a body that is not read. -/
def BodyFault.report : BodyFault → Report
  | tooLong =>
    ⟨.internal "RequestEntityTooLarge",
      "413 Request Entity Too Large: The data value transmitted exceeds the capacity limit."⟩

/-! ## Static rules -/

/-- What a request for static rules gives. -/
inductive StaticRules where
  | rules (items : List Json)
  | rulesets (items : List Json)

def StaticRules.ofFields (fields : Fields) : Except RequestFault StaticRules :=
  match firstUnknown? ["rules", "rulesets"] fields.keys with
  | some key => .error (.unknownField key)
  | none =>
    match (fields.get? "rules").getD .null, (fields.get? "rulesets").getD .null with
    | .null, .null => .error .notExactlyOne
    | .null, .arr items => .ok (rulesets items)
    | .null, _ => .error .rulesetsNotList
    | .arr items, .null => .ok (rules items)
    | _, .null => .error .rulesNotList
    | _, _ => .error .notExactlyOne

def StaticRules.ofBody (v : Json) : Except RequestFault StaticRules :=
  match v with
  | .obj fields => ofFields fields
  | _ => .error .bodyNotObject

abbrev Desk := Manager Archive

def putStaticRules (config : Config) (client : String) (body : Body) (m : Desk) :
    Except Report Json × Desk :=
  match body.read config.bodyLimit with
  | .error fault => (.error fault.report, m)
  | .ok v =>
    match StaticRules.ofBody v with
    | .error fault => (.error (Failure.request none fault).report, m)
    | .ok given =>
      let (outcome, m) := match given with
        | .rules items => m.loadStaticRules config.service client (.arr items)
        | .rulesets items => m.loadRulesets config.service client (.arr items)
      ((outcome.map (·.toJson)).mapError (·.report), m)

/-! ## Other routes -/

def getHealth (config : Config) (m : Desk) : Response :=
  if config.archiveOpen then
    let archive := m.compiler.service
    ⟨200, some (.obj
      [("ok", .bool true),
        ("clients", .int m.store.clients.length),
        ("ruleLists",
          .obj [("lists", .int archive.lists.length), ("rules", .int archive.countRules)])])⟩
  else ⟨503, some (.obj [("ok", .bool false)])⟩

def getRuleList (m : Desk) (client : String) : Response :=
  let state : Json := .str (m.state client).name
  match m.ruleList client with
  | none =>
    ⟨404, some (.obj
      [("ok", .bool false), ("error", .str FailureKind.rulesetNotFound.name),
        ("message", .str "No compiled rule list."), ("state", state)])⟩
  | some a =>
    ok (.obj
      [("identifier", .str a.identifier), ("sha256", .str a.sha256),
        ("ruleCount", .int a.ruleCount), ("state", state), ("encoded", .str a.encoded)])

def postMessage (config : Config) (client : String) (body : Body) (m : Desk) : Response × Desk :=
  match body.read config.bodyLimit with
  | .error .tooLong => (⟨413, none⟩, m)
  | .ok v =>
    let (outcome, m) := runMessage (Manager.perform config.service) (some client) v m
    (outcomeResponse config outcome, m)

def deleteClient (config : Config) (client : String) (m : Desk) : Response × Desk :=
  let (outcome, m) := m.removeRules config.service client
  match outcome with
  | .ok () => (⟨200, some (.obj [("ok", .bool true)])⟩, m)
  | .error failure => (outcomeResponse config (.error failure.report), m)

/-! ## Requests -/

/-- The answer of a route to its own verb. -/
def Route.serve (config : Config) (body : Body) (m : Desk) : Route → Response × Desk
  | health => (getHealth config m, m)
  | messages id => postMessage config id body m
  | staticRules id =>
    let (outcome, m) := putStaticRules config id body m
    (outcomeResponse config outcome, m)
  | tierRules tier id => (ok (Manager.jsonRules (m.rules id tier)), m)
  | ruleList id => (getRuleList m id, m)
  | compile id =>
    let (outcome, m) := m.recompile config.service id
    (outcomeResponse config ((outcome.map (·.toJson)).mapError (·.report)), m)
  | client id => deleteClient config id m
  | file => (⟨404, none⟩, m)

/-- Answers a request. -/
def respond (config : Config) (m : Desk) (request : Request) : Response × Desk :=
  match Target.of request.verb (pathOf request.target) with
  | .unknown => (⟨404, none⟩, m)
  | .wrongVerb => (⟨405, none⟩, m)
  | .redirect => (⟨308, none⟩, m)
  | .route r =>
    match request.verb with
    | .options => (⟨200, none⟩, m)
    | .head =>
      let (response, m) := r.serve config request.body m
      (⟨response.status, none⟩, m)
    | _ => r.serve config request.body m

end ContentBlocker.Api
