import ContentBlocker.Json.Reader
import ContentBlocker.Offline.Folder
import ContentBlocker.Rule.Batch
import ContentBlocker.Text.Utf8

/-!
# Rule files

A rule file is a JSON array of rules in UTF-8.  Line breaks of all kinds read as `\n`.  Malformed
rules are left out of a file's rules and do not make the file unreadable.
-/

namespace ContentBlocker.Offline

/-- Why a rule file cannot be read. -/
inductive FileFault where
  | inaccessible (fault : PathFault)
  | encoding (fault : Text.Utf8.Fault)
  | notJson (reason : String)
  | notArray (path : String)
deriving DecidableEq, Repr

def FileFault.message : FileFault → String
  | inaccessible fault => fault.message
  | encoding fault => fault.message
  | notJson reason => reason
  | notArray path => path ++ ": expected a JSON array of rules"

/-- Makes every line break a `\n`. -/
def unifyLines : List Char → List Char
  | '\r' :: '\n' :: rest => '\n' :: unifyLines rest
  | '\r' :: rest => '\n' :: unifyLines rest
  | c :: rest => c :: unifyLines rest
  | [] => []

/-- A file of rules, read. -/
structure RuleFile where
  path : String
  batch : Batch

namespace RuleFile

/-- The rules in the text of a file. -/
def ofText (path text : String) : Except FileFault RuleFile :=
  match Json.read text with
  | .error reason => .error (.notJson reason)
  | .ok (.arr items) => .ok ⟨path, Batch.ofItems items⟩
  | .ok _ => .error (.notArray path)

/-- The rules in a file of which reading gave the bytes or a fault. -/
def ofReading (path : String) : Except PathFault (List UInt8) → Except FileFault RuleFile
  | .error fault => .error (.inaccessible fault)
  | .ok bytes =>
    match Text.Utf8.decode bytes with
    | .error fault => .error (.encoding fault)
    | .ok chars => ofText path (String.ofList (unifyLines chars))

/-- How many rules and how many malformed rules are in a file. -/
def figures (f : RuleFile) : Json :=
  .obj [("rules", .int f.batch.rules.length), ("invalid", .int f.batch.rejected.length)]

end RuleFile

end ContentBlocker.Offline
