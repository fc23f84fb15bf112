import ContentBlocker.Compile.Service
import ContentBlocker.Digest.Sha256
import ContentBlocker.RuleList.Validation

/-!
# The archive of compiled lists

The archive is a service that validates documents and keeps one list for each identifier, sorted by
identifier.  A compilation that fails changes nothing.
-/

namespace ContentBlocker

/-! ## Faults -/

inductive ArchiveFault where
  | blankIdentifier
  | rejected (rejection : RuleList.Rejection)
  | defect (d : Defect)
  | missing (identifier : String)
  /-- the archive cannot be opened -/
  | closed
deriving DecidableEq, Repr

def ArchiveFault.report : ArchiveFault → Report
  | blankIdentifier => ⟨.caller .compilationFailed, "Rule list identifier is required."⟩
  | rejected rejection => ⟨.caller .compilationFailed, rejection.message⟩
  | defect d => d.report
  | missing identifier =>
    ⟨.caller .rulesetNotFound, s!"No compiled rule list named {identifier}."⟩
  | closed => ⟨.internal "OperationalError", "unable to open database file"⟩

def ArchiveFault.ofFinding : RuleList.Finding RuleList.Rejection → ArchiveFault
  | .fault rejection => rejected rejection
  | .defect d => defect d

/-! ## The archive -/

structure Archive where
  lists : List Artifact
deriving DecidableEq, Repr

namespace Archive

def empty : Archive := ⟨[]⟩

/-- Puts a list among lists sorted by identifier, in place of the one with its identifier. -/
def insert (lists : List Artifact) (a : Artifact) : List Artifact :=
  match lists with
  | [] => [a]
  | b :: rest =>
    if b.identifier = a.identifier then a :: rest
    else if a.identifier < b.identifier then a :: b :: rest
    else b :: insert rest a

def lookup (archive : Archive) (identifier : String) : Option Artifact :=
  archive.lists.find? (·.identifier = identifier)

/-- Checks a document and keeps it as the list of an identifier. -/
def compile (archive : Archive) (identifier encoded : String) :
    Except ArchiveFault (Artifact × Archive) :=
  if Text.isAllBlank identifier then .error .blankIdentifier
  else
    match RuleList.validate encoded with
    | .error finding => .error (.ofFinding finding)
    | .ok count =>
      let a : Artifact := ⟨identifier, Digest.sha256 encoded, count, encoded⟩
      .ok (a, ⟨insert archive.lists a⟩)

/-- As `compile`, for a value that should be the text of a document. -/
def compileValue (archive : Archive) (identifier : String) (v : Json) :
    Except ArchiveFault (Artifact × Archive) :=
  match v with
  | .str encoded => archive.compile identifier encoded.lossy
  | v =>
    if Text.isAllBlank identifier then .error .blankIdentifier
    else .error (.rejected (RuleList.Rejection.notText v))

/-- Removes the list of an identifier. -/
def remove (archive : Archive) (identifier : String) : Except ArchiveFault Archive :=
  if (archive.lookup identifier).isSome then
    .ok ⟨archive.lists.filter (·.identifier ≠ identifier)⟩
  else .error (.missing identifier)

def identifiers (archive : Archive) : List String := archive.lists.map (·.identifier)

/-- The number of entries of all lists. -/
def countRules (archive : Archive) : Nat := (archive.lists.map (·.ruleCount)).foldr (· + ·) 0

/-! ## The archive as a service -/

def service : Service Archive where
  compile identifier document archive :=
    match archive.compile identifier document with
    | .ok (a, archive) => (.ok a, archive)
    | .error fault => (.error fault.report, archive)
  remove identifier archive :=
    match archive.remove identifier with
    | .ok archive => (.ok (), archive)
    | .error fault => (.error fault.report, archive)

/-- The service of an archive that cannot be opened: documents are still checked. -/
def closedService : Service Archive where
  compile identifier document archive :=
    match archive.compile identifier document with
    | .ok _ => (.error ArchiveFault.closed.report, archive)
    | .error fault => (.error fault.report, archive)
  remove _ archive := (.error ArchiveFault.closed.report, archive)

end Archive

end ContentBlocker
