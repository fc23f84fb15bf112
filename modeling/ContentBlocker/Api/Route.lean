import ContentBlocker.Api.Path
import ContentBlocker.Store.Tier

/-!
# Routes

A route is what a path stands for.  Every route takes one verb of its own besides those that every
server answers.  Files have routes too, but there are no files.
-/

namespace ContentBlocker.Api

inductive Verb where
  | get
  | head
  | options
  | post
  | put
  | delete
  | other
deriving DecidableEq, Repr

/-- The verb with a name in either case. -/
def Verb.ofName (name : String) : Verb :=
  match name.map Char.toUpper with
  | "GET" => get
  | "HEAD" => head
  | "OPTIONS" => options
  | "POST" => post
  | "PUT" => put
  | "DELETE" => delete
  | _ => other

inductive Route where
  | health
  | messages (client : String)
  | staticRules (client : String)
  | tierRules (tier : Tier) (client : String)
  | ruleList (client : String)
  | compile (client : String)
  | client (client : String)
  /-- a file with a path of its own -/
  | file
deriving DecidableEq, Repr

namespace Route

/-- The route of a client and what is asked of it. -/
def ofPart? (client : String) : String → Option Route
  | "messages" => some (messages client)
  | "static-rules" => some (staticRules client)
  | "dynamic-rules" => some (tierRules .dynamic client)
  | "session-rules" => some (tierRules .session client)
  | "rule-list" => some (ruleList client)
  | "compile" => some (compile client)
  | _ => none

/-- Whether segments can be the path of a file: the first is not empty, and a line break stands
nowhere but at the start. -/
def isFilePath : List String → Bool
  | first :: rest => !first.isEmpty && !((first.toList.drop 1).contains '\n' ||
      rest.any (·.toList.contains '\n'))
  | [] => false

/-- The route of a path's segments; the id of a client is not empty. -/
def ofSegments? : List String → Option Route
  | ["health"] => some health
  | "static" :: path => if isFilePath path then some file else none
  | ["api", "dnr", id] => if id.isEmpty then none else some (client id)
  | ["api", "dnr", id, part] => if id.isEmpty then none else ofPart? id part
  | _ => none

/-- The verb that a route is for. -/
def verb : Route → Verb
  | health | tierRules .. | ruleList _ | file => .get
  | messages _ | compile _ => .post
  | staticRules _ => .put
  | client _ => .delete

/-- Whether a route can be asked with a verb. -/
def takes (r : Route) (v : Verb) : Bool :=
  v = r.verb || v = .options || (v = .head && r.verb = .get)

end Route

/-- What a request asks for. -/
inductive Target where
  | route (r : Route)
  /-- the path without doubled slashes is a route -/
  | redirect
  | wrongVerb
  | unknown
deriving DecidableEq, Repr

def Target.of (v : Verb) (path : List Char) : Target :=
  let plain := Route.ofSegments? (segments path)
  let merged := Route.ofSegments? (segments (mergeSlashes path))
  match plain.filter (·.takes v), merged.filter (·.takes v) with
  | some r, _ => route r
  | none, some _ => redirect
  | none, none => if plain.isSome || merged.isSome then wrongVerb else unknown

end ContentBlocker.Api
