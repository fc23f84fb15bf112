import ContentBlocker.Defect
import ContentBlocker.Json.Reader
import ContentBlocker.Regex.Pattern
import ContentBlocker.RuleList.Vocabulary

/-!
# Validation of rule lists

`validate` reads a document and checks every entry in order.  Of a document that is no rule list it
names the first entry at fault and, within it, the first field in the order of the checks.
-/

namespace ContentBlocker.RuleList

/-! ## Rejections -/

/-- What is wrong with an entry. -/
inductive EntryFault where
  | notObject
  | triggerNotObject
  | filterMissing
  | filterNotAscii
  | filterMalformed (reason : String)
  | caseNotBoolean
  | resourceTypesNotList
  | unknownResourceType (found : String)
  | loadTypesNotList
  | unknownLoadType (found : String)
  | domainsNotList (field : String)
  | actionNotObject
  | unknownAction (found : String)
  | selectorMissing
deriving DecidableEq, Repr

def EntryFault.message : EntryFault → String
  | notObject => "must be an object"
  | triggerNotObject => "trigger must be an object"
  | filterMissing => "trigger.url-filter is required"
  | filterNotAscii => "trigger.url-filter must be ASCII"
  | filterMalformed reason => "invalid url-filter regex: " ++ reason
  | caseNotBoolean => "url-filter-is-case-sensitive must be a boolean"
  | resourceTypesNotList => "resource-type must be a non-empty list"
  | unknownResourceType found => "unknown resource-type " ++ found
  | loadTypesNotList => "load-type must be a non-empty list"
  | unknownLoadType found => "unknown load-type " ++ found
  | domainsNotList field => field ++ " must be a non-empty list of strings"
  | actionNotObject => "action must be an object"
  | unknownAction found => "unknown action type " ++ found
  | selectorMissing => "css-display-none requires a selector"

/-- Why a document is no rule list. -/
inductive Rejection where
  | notJson (reason : String)
  | notArray
  | tooManyEntries (count : Nat)
  | entry (index : Nat) (fault : EntryFault)
deriving DecidableEq, Repr

def Rejection.message : Rejection → String
  | notJson reason => "Rule list is not valid JSON: " ++ reason
  | notArray => "Rule list must be a JSON array."
  | tooManyEntries count => s!"Rule list has too many rules ({count} > {entryBound})."
  | entry index fault => s!"Rule list entry {index}: {fault.message}"

/-- The rejection of a value that is not the text of a document. -/
def Rejection.notText (v : Json) : Rejection :=
  notJson ("the JSON object must be str, bytes or bytearray, not " ++ v.kindName)

/-- How a check ends that finds something: a fault to report, or a defect. -/
inductive Finding (ε : Type) where
  | fault (f : ε)
  | defect (d : Defect)
deriving DecidableEq, Repr

abbrev Check := Except (Finding EntryFault)

def reject {α : Type} (fault : EntryFault) : Check α := .error (.fault fault)

def require (condition : Bool) (fault : EntryFault) : Check Unit :=
  if condition then .ok () else reject fault

/-! ## Fields -/

/-- A field that is absent or null is not checked. -/
def optional (fields : Fields) (key : Text) (check : Json → Check Unit) : Check Unit :=
  match fields.get? key with
  | none => .ok ()
  | some v => if v.isNull then .ok () else check v

/-- Whether a value is one of the words of a vocabulary. -/
def isWord (words : List String) (v : Json) : Bool :=
  match v with
  | .str s => s.string?.any words.contains
  | _ => false

/-- A value must be one of the words of a vocabulary. -/
def checkWord (words : List String) (unknown : String → EntryFault) (v : Json) : Check Unit :=
  match v.hashable with
  | .error d => .error (.defect d)
  | .ok () => require (isWord words v) (unknown v.described)

/-- A value must be a list, not empty, of words of a vocabulary. -/
def checkWords (words : List String) (notList : EntryFault) (unknown : String → EntryFault) :
    Json → Check Unit
  | .arr (v :: rest) => (v :: rest).forM (checkWord words unknown)
  | _ => reject notList

def isNonEmptyText : Json → Bool
  | .str s => !s.isEmpty
  | _ => false

/-- A value must be a list, not empty, of texts, none empty. -/
def checkDomains (field : String) : Json → Check Unit
  | .arr (v :: rest) => require ((v :: rest).all isNonEmptyText) (.domainsNotList field)
  | _ => reject (.domainsNotList field)

/-- The filter must keep to the grammar of patterns. -/
def checkPattern (pattern : List Char) : Check Unit :=
  match Regex.check pattern with
  | .ok _ => .ok ()
  | .error (.malformed cause place) =>
    reject (.filterMalformed ((Regex.Refusal.malformed cause place).message pattern))
  | .error refusal => .error (.defect (.pattern refusal))

/-- The filter must be a pattern in ASCII, not empty. -/
def checkFilter (v : Option Json) : Check Unit :=
  match v with
  | some (.str s) =>
    if s.isEmpty then reject .filterMissing
    else if s.any fun p => 128 ≤ p.toNat then reject .filterNotAscii
    else checkPattern (s.map CodePoint.char)
  | _ => reject .filterMissing

/-! ## Entries -/

def checkTrigger : Option Json → Check Unit
  | some (.obj trigger) => do
    checkFilter (Table.get? trigger "url-filter")
    optional trigger "url-filter-is-case-sensitive" fun v =>
      require v.bool?.isSome .caseNotBoolean
    optional trigger "resource-type"
      (checkWords resourceTypes .resourceTypesNotList .unknownResourceType)
    optional trigger "load-type" (checkWords loadTypes .loadTypesNotList .unknownLoadType)
    domainFields.forM fun field => optional trigger field (checkDomains field)
  | _ => reject .triggerNotObject

def checkAction : Option Json → Check Unit
  | some (.obj action) => do
    let type := (Table.get? action "type").getD .null
    checkWord actionTypes .unknownAction type
    require
      (type.str? ≠ some ↑"css-display-none" ||
        ((Table.get? action "selector").bind Json.str?).isSome)
      .selectorMissing
  | _ => reject .actionNotObject

def checkEntry : Json → Check Unit
  | .obj entry => do
    checkTrigger (Table.get? entry "trigger")
    checkAction (Table.get? entry "action")
  | _ => reject .notObject

/-! ## Documents -/

/-- Checks entries in order, from an index on. -/
def checkEntries : Nat → List Json → Except (Finding Rejection) Unit
  | _, [] => .ok ()
  | index, entry :: rest =>
    match checkEntry entry with
    | .ok () => checkEntries (index + 1) rest
    | .error (.fault fault) => .error (.fault (.entry index fault))
    | .error (.defect d) => .error (.defect d)

/-- The number of entries of a value that is a rule list. -/
def checkDocument : Json → Except (Finding Rejection) Nat
  | .arr entries =>
    if entryBound < entries.length then .error (.fault (.tooManyEntries entries.length))
    else (checkEntries 0 entries).map fun _ => entries.length
  | _ => .error (.fault .notArray)

/-- The number of entries of a document that is a rule list. -/
def validate (document : String) : Except (Finding Rejection) Nat :=
  match Json.read document with
  | .error reason => .error (.fault (.notJson reason))
  | .ok v => checkDocument v

/-- As `validate`, for a value that should be the text of a document. -/
def validateValue : Json → Except (Finding Rejection) Nat
  | .str document => validate document.lossy
  | v => .error (.fault (.notText v))

end ContentBlocker.RuleList
