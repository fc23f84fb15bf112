import ContentBlocker.Failure.Request
import ContentBlocker.Json.Basic
import ContentBlocker.Store.Tier
import ContentBlocker.Text.Blank

/-!
# Messages

A message is an object with a method and options.  Each method has options of its own; what a
message asks for is known before anything is done.  `Request.ofMessage` reads a message, and of
several faults it names the first in the order of its checks.
-/

namespace ContentBlocker

/-! ## Options -/

/-- An option that lists values of one kind. -/
structure ListOption where
  name : String
  accepts : Json → Bool
  /-- what the value must be, in messages -/
  due : String

def ruleOptions : List ListOption :=
  [⟨"addRules", fun v => v.obj?.isSome, "a list of rule objects"⟩,
    ⟨"removeRuleIds", fun v => v.int?.isSome, "a list of integer rule ids"⟩]

def rulesetOptions : List ListOption :=
  [⟨"enableRulesetIds", fun v => v.str?.isSome, "a list of ruleset id strings"⟩,
    ⟨"disableRulesetIds", fun v => v.str?.isSome, "a list of ruleset id strings"⟩]

/-- The first key in sorted order that is not among the known ones. -/
def firstUnknown? (known keys : List Text) : Option Text :=
  ((keys.filter fun k => !known.contains k).mergeSort Text.notAfter).head?

/-- The values of an option; none if it is absent or null. -/
def ListOption.read (method : String) (fields : Fields) (o : ListOption) :
    Except RequestFault (String × List Json) :=
  match (fields.get? o.name).getD .null with
  | .null => .ok (o.name, [])
  | .arr items =>
    if items.all o.accepts then .ok (o.name, items)
    else .error (.wrongOption method o.name o.due)
  | _ => .error (.wrongOption method o.name o.due)

/-- The values of all options of a method, in their order. -/
def readOptions (method : String) (known : List ListOption) (options : Json) :
    Except RequestFault (Table String (List Json)) :=
  match options with
  | .null => known.mapM (·.read method [])
  | .obj fields =>
    match firstUnknown? (known.map fun o => o.name) (Table.keys fields) with
    | some key => .error (.unknownOption method key)
    | none => known.mapM (·.read method fields)
  | _ => .error (.optionsNotObject method)

/-- The values of one option among those read. -/
def optionValues (options : Table String (List Json)) (name : String) : List Json :=
  (options.get? name).getD []

/-! ## Methods -/

inductive Method where
  | updateTier (tier : Tier)
  | getTier (tier : Tier)
  | getEnabledRulesets
  | updateEnabledRulesets
deriving DecidableEq, Repr

namespace Method

def name : Method → String
  | updateTier .dynamic => "updateDynamicRules"
  | updateTier .session => "updateSessionRules"
  | getTier .dynamic => "getDynamicRules"
  | getTier .session => "getSessionRules"
  | getEnabledRulesets => "getEnabledRulesets"
  | updateEnabledRulesets => "updateEnabledRulesets"

def all : List Method :=
  [updateTier .dynamic, getTier .dynamic, updateTier .session, getTier .session,
    getEnabledRulesets, updateEnabledRulesets]

def named? (s : Text) : Option Method := all.find? fun m => m.name = s

theorem named?_name (m : Method) : named? m.name = some m := by
  rcases m with t | t | _ | _ <;> (try cases t) <;> decide

end Method

/-! ## Requests -/

/-- What a message asks for. -/
inductive Request where
  | updateTier (tier : Tier) (add : List Json) (remove : List Int)
  | getTier (tier : Tier)
  | getEnabledRulesets
  | updateEnabledRulesets (enable disable : List Text)

namespace Request

/-- The request of a method that takes no options. -/
def withoutOptions (method : String) (options : Json) (r : Request) : Except RequestFault Request :=
  match options with
  | .null | .obj [] => .ok r
  | _ => .error (.takesNoOptions method)

/-- The request of a method with its options. -/
def ofOptions (method : Method) (options : Json) : Except RequestFault Request :=
  match method with
  | .updateTier tier =>
    (readOptions method.name ruleOptions options).map fun o =>
      updateTier tier (optionValues o "addRules")
        ((optionValues o "removeRuleIds").filterMap Json.int?)
  | .getTier tier => withoutOptions method.name options (getTier tier)
  | .getEnabledRulesets => withoutOptions method.name options getEnabledRulesets
  | .updateEnabledRulesets =>
    (readOptions method.name rulesetOptions options).map fun o =>
      updateEnabledRulesets ((optionValues o "enableRulesetIds").filterMap Json.str?)
        ((optionValues o "disableRulesetIds").filterMap Json.str?)

/-- The method that the fields of a message name. -/
def methodOf (fields : Fields) : Except RequestFault Method :=
  match fields.get? "method" with
  | some (.str name) =>
    if name.isEmpty then .error .methodMissing
    else
      match Method.named? name with
      | some m => .ok m
      | none => .error (.unknownMethod name)
  | _ => .error .methodMissing

/-- The client that a message comes from. -/
def clientOf (client : Option String) : Except RequestFault String :=
  match client with
  | some c => if Text.isAllBlank c then .error .clientMissing else .ok c
  | none => .error .clientMissing

/-- The client of a message and what the message asks for. -/
def ofFields (client : Option String) (fields : Fields) : Except RequestFault (String × Request) :=
  match firstUnknown? ["method", "options"] fields.keys with
  | some key => .error (.unknownMessageField key)
  | none => do
    let method ← methodOf fields
    let client ← clientOf client
    let request ← ofOptions method ((fields.get? "options").getD .null)
    pure (client, request)

def ofMessage (client : Option String) (body : Json) : Except RequestFault (String × Request) :=
  match body with
  | .obj fields => ofFields client fields
  | _ => .error .messageNotObject

end Request

end ContentBlocker
