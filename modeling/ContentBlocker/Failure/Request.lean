import ContentBlocker.Text.Quoted

/-!
# Why a request is refused

A request is refused for its form, before anything is changed.
-/

namespace ContentBlocker

inductive RequestFault where
  | messageNotObject
  | unknownMessageField (key : Text)
  | methodMissing
  | unknownMethod (method : Text)
  | clientMissing
  | takesNoOptions (method : String)
  | optionsNotObject (method : String)
  | unknownOption (method : String) (key : Text)
  | wrongOption (method key due : String)
  | bodyNotObject
  | unknownField (key : Text)
  | notExactlyOne
  | rulesNotList
  | rulesetsNotList
  | rulesetWithoutId
deriving DecidableEq, Repr

def RequestFault.message : RequestFault → Text
  | messageNotObject => "Message must be an object."
  | unknownMessageField key => s!"Unknown message field {Text.quoted key}."
  | methodMissing => "Missing method"
  | unknownMethod method => "Unknown method: " ++ method
  | clientMissing => "Unable to determine client id"
  | takesNoOptions method => s!"{method}: takes no options."
  | optionsNotObject method => s!"{method}: options must be an object."
  | unknownOption method key => s!"{method}: unknown option {Text.quoted key}."
  | wrongOption method key due => s!"{method}: {key} must be {due}."
  | bodyNotObject => "Request body must be a JSON object."
  | unknownField key => s!"Unknown field {Text.quoted key}."
  | notExactlyOne => "Provide exactly one of \"rules\" or \"rulesets\"."
  | rulesNotList => "\"rules\" must be a list of rule objects."
  | rulesetsNotList => "\"rulesets\" must be a list of ruleset objects."
  | rulesetWithoutId => "Each static ruleset needs a string id."

end ContentBlocker
