import ContentBlocker.Rule.Basic

/-!
# Rules from JSON

Reading a rule is strict about what makes it a rule, its id, the type of its action and its having a
condition, and lenient about everything else: an optional field with a value of the wrong kind
counts as absent, and no value is ever converted.
-/

namespace ContentBlocker

/-! ## Typed fields -/

namespace Json

def strs? (v : Json) : Option (List Text) := v.arr?.bind fun items => items.mapM str?

def ints? (v : Json) : Option (List Int) := v.arr?.bind fun items => items.mapM int?

end Json

namespace Fields

def str? (fields : Fields) (key : Text) : Option Text := (fields.get? key).bind Json.str?

def bool? (fields : Fields) (key : Text) : Option Bool := (fields.get? key).bind Json.bool?

def int? (fields : Fields) (key : Text) : Option Int := (fields.get? key).bind Json.int?

def arr? (fields : Fields) (key : Text) : Option (List Json) :=
  (fields.get? key).bind Json.arr?

def obj? (fields : Fields) (key : Text) : Option Fields := (fields.get? key).bind Json.obj?

def strs? (fields : Fields) (key : Text) : Option (List Text) :=
  (fields.get? key).bind Json.strs?

def ints? (fields : Fields) (key : Text) : Option (List Int) :=
  (fields.get? key).bind Json.ints?

end Fields

/-! ## Faults -/

inductive ActionFault where
  | notObject
  | typeMissing
  | unknownType (found : Text)
deriving DecidableEq, Repr

def ActionFault.message : ActionFault → Text
  | notObject => "Rule action must be an object."
  | typeMissing => "Rule action.type is required."
  | unknownType found => "Unknown rule action type: " ++ found

inductive ConditionFault where
  | notObject
deriving DecidableEq, Repr

def ConditionFault.message : ConditionFault → Text
  | notObject => "Rule condition must be an object."

/-- Why a value is no rule. -/
inductive RuleFault where
  | notObject
  | idMissing
  | idNotInteger
  | conditionMissing (id : Int)
  | action (id : Int) (fault : ActionFault)
  | condition (id : Int) (fault : ConditionFault)
deriving DecidableEq, Repr

namespace RuleFault

/-- The id of the value, where it has one. -/
def ruleId : RuleFault → Option Int
  | notObject | idMissing | idNotInteger => none
  | conditionMissing id | action id _ | condition id _ => some id

def message : RuleFault → Text
  | notObject => "Rule must be an object."
  | idMissing => "Rule id is required."
  | idNotInteger => "Rule id must be an integer."
  | conditionMissing _ => "Rule condition is required."
  | action id fault => s!"Rule {id}: " ++ fault.message
  | condition id fault => s!"Rule {id}: " ++ fault.message

end RuleFault

/-! ## Actions -/

def Redirect.ofFields (fields : Fields) : Redirect where
  url := fields.str? "url"
  extensionPath := fields.str? "extensionPath"
  transform := fields.obj? "transform"
  regexSubstitution := fields.str? "regexSubstitution"

/-- An entry without a header or an operation is none. -/
def HeaderChange.ofJson? (v : Json) : Option HeaderChange := do
  let fields ← v.obj?
  let header ← fields.str? "header"
  let operation ← fields.str? "operation"
  pure ⟨header, operation, fields.str? "value"⟩

/-- The entries of a field that are header changes. -/
def HeaderChange.ofField? (fields : Fields) (key : Text) : Option (List HeaderChange) :=
  (fields.arr? key).map fun items => items.filterMap ofJson?

def ActionType.ofField (fields : Fields) : Except ActionFault ActionType :=
  match fields.str? "type" with
  | none => .error .typeMissing
  | some found =>
    match named? found with
    | none => .error (.unknownType found)
    | some t => .ok t

/-- The action with a type that is known, from the object's other fields. -/
def Action.withType (fields : Fields) (type : ActionType) : Action where
  type := type
  redirect := (fields.obj? "redirect").map Redirect.ofFields
  requestHeaders := HeaderChange.ofField? fields "requestHeaders"
  responseHeaders := HeaderChange.ofField? fields "responseHeaders"

def Action.ofJson : Json → Except ActionFault Action
  | .obj fields => (ActionType.ofField fields).map (withType fields)
  | _ => .error .notObject

/-! ## Conditions -/

def Condition.ofFields (fields : Fields) : Condition where
  urlFilter := fields.str? "urlFilter"
  regexFilter := fields.str? "regexFilter"
  isUrlFilterCaseSensitive := fields.bool? "isUrlFilterCaseSensitive"
  initiatorDomains := fields.strs? "initiatorDomains"
  excludedInitiatorDomains := fields.strs? "excludedInitiatorDomains"
  requestDomains := fields.strs? "requestDomains"
  excludedRequestDomains := fields.strs? "excludedRequestDomains"
  domains := fields.strs? "domains"
  excludedDomains := fields.strs? "excludedDomains"
  resourceTypes := fields.strs? "resourceTypes"
  excludedResourceTypes := fields.strs? "excludedResourceTypes"
  requestMethods := fields.strs? "requestMethods"
  excludedRequestMethods := fields.strs? "excludedRequestMethods"
  party := (fields.str? "domainType").bind Party.named?
  tabIds := fields.ints? "tabIds"
  excludedTabIds := fields.ints? "excludedTabIds"

def Condition.ofJson : Json → Except ConditionFault Condition
  | .obj fields => .ok (ofFields fields)
  | _ => .error .notObject

/-! ## Rules -/

/-- The id of an object; null counts as absent. -/
def Rule.idOf (fields : Fields) : Except RuleFault Int :=
  match (fields.get? "id").getD .null with
  | .null => .error .idMissing
  | .int id => .ok id
  | _ => .error .idNotInteger

/-- The rule with an id that is known, from the object's other fields. -/
def Rule.withId (id : Int) (fields : Fields) : Except RuleFault Rule :=
  match fields.get? "condition" with
  | none => .error (.conditionMissing id)
  | some c =>
    match Action.ofJson ((fields.get? "action").getD .null) with
    | .error fault => .error (.action id fault)
    | .ok action =>
      match Condition.ofJson c with
      | .error fault => .error (.condition id fault)
      | .ok condition => .ok ⟨id, fields.int? "priority", action, condition⟩

def Rule.ofJson : Json → Except RuleFault Rule
  | .obj fields =>
    match idOf fields with
    | .error fault => .error fault
    | .ok id => withId id fields
  | _ => .error .notObject

end ContentBlocker
