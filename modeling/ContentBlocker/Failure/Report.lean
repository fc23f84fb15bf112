import ContentBlocker.Defect
import ContentBlocker.Text.SingleLine

/-!
# What callers are told of a failure

A report is all that can be told of a failure: where it comes from and its text.  The text of a
failure inside the program is told only where internal errors are exposed; there every text comes
with the label of its origin.
-/

namespace ContentBlocker

/-- Kinds of failures that callers can act on. -/
inductive FailureKind where
  | general
  | invalidRule
  | quotaExceeded
  | compilationFailed
  | rulesetNotFound
  | invalidRequest
deriving DecidableEq, Repr

namespace FailureKind

def name : FailureKind → String
  | general => "error"
  | invalidRule => "invalidRule"
  | quotaExceeded => "quotaExceeded"
  | compilationFailed => "compilationFailed"
  | rulesetNotFound => "rulesetNotFound"
  | invalidRequest => "invalidRequest"

def label : FailureKind → String
  | general => "DnrError"
  | invalidRule => "InvalidRule"
  | quotaExceeded => "QuotaExceeded"
  | compilationFailed => "CompilationFailed"
  | rulesetNotFound => "RulesetNotFound"
  | invalidRequest => "InvalidRequest"

end FailureKind

/-- Where a failure comes from. -/
inductive Origin where
  | caller (kind : FailureKind)
  /-- a value that does not fit; its text is meant for callers -/
  | value
  /-- the inside of the program -/
  | internal (label : String)
deriving DecidableEq, Repr

namespace Origin

def label : Origin → String
  | caller kind => kind.label
  | value => "ValueError"
  | internal label => label

/-- Whether callers may see the texts of such failures. -/
def isPublic : Origin → Bool
  | caller _ | value => true
  | internal _ => false

/-- The name of the kind of failure in answers. -/
def kindName : Origin → String
  | caller kind => kind.name
  | value | internal _ => "internalError"

end Origin

structure Report where
  origin : Origin
  text : Text
deriving DecidableEq, Repr

namespace Report

/-- A text, or what stands in for an empty one. -/
def orDefault (default text : Text) : Text := if text.isEmpty then default else text

/-- The text that callers see, on one line and of at most `limit` code points. -/
def message (expose : Bool) (default : Text) (limit : Int) (r : Report) : Text :=
  if expose then orDefault default (Text.singleLine limit (r.origin.label ++ ": " ++ r.text))
  else if r.origin.isPublic then orDefault default (Text.singleLine limit r.text)
  else default

def defaultMessage : String := "Operation failed. Check server logs for details."

def defaultLimit : Int := 200

/-- The answer that tells a caller of a failure. -/
def answer (expose : Bool) (r : Report) : Json :=
  .obj
    [("ok", .bool false), ("error", .str r.origin.kindName),
      ("message", .str (r.message expose defaultMessage defaultLimit))]

end Report

/-- A defect comes from the inside of the program. -/
def Defect.report (d : Defect) : Report := ⟨.internal d.label, d.text⟩

end ContentBlocker
