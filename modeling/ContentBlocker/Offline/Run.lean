import ContentBlocker.Failure.Report
import ContentBlocker.Offline.Arguments
import ContentBlocker.Offline.Compilation

/-!
# Runs of the offline compiler

A run reads the rule files in order and stops at the first that cannot be read.  The rule list is
checked before anything is written.  `judge` decides all that does not depend on where the files
are kept, `run` is a whole run in a folder.
-/

namespace ContentBlocker.Offline

/-! ## What a run comes to -/

/-- Why a run writes nothing. -/
inductive Refusal where
  | unreadable (path : String) (fault : FileFault)
  | rejected (rejection : RuleList.Rejection)

namespace Refusal

def message : Refusal → String
  | unreadable path fault => s!"failed reading {path}: {fault.message}"
  | rejected rejection => s!"rule list rejected: {rejection.message}"

/-- The exit status of the run. -/
def status : Refusal → Nat
  | unreadable _ _ => 2
  | rejected _ => 1

end Refusal

/-- What the rule files come to. -/
inductive Verdict where
  | refused (refusal : Refusal)
  /-- the check itself failed -/
  | broken (defect : Defect)
  | compiled (c : Compilation)

/-- The files in front of the first that cannot be read, and that one. -/
def readFiles : List (String × Except PathFault (List UInt8)) →
    List RuleFile × Option (String × FileFault)
  | [] => ([], none)
  | (path, reading) :: rest =>
    match RuleFile.ofReading path reading with
    | .error fault => ([], some (path, fault))
    | .ok file => ((readFiles rest).map (file :: ·) id)

/-- The notices of the malformed rules of a file. -/
def rejectionNotices (f : RuleFile) : List Text :=
  f.batch.rejected.map fun r => f.path ++ ": skipping invalid rule: " ++ r.message

/-- Checks the rule list of a compilation, if checks are asked for. -/
def Compilation.verdict (c : Compilation) (validates : Bool) : Verdict :=
  match if validates then c.check else .ok () with
  | .ok () => .compiled c
  | .error (.fault rejection) => .refused (.rejected rejection)
  | .error (.defect defect) => .broken defect

/-- What the readings of the rule files come to, with the notices of malformed rules. -/
def judge (validates : Bool) (readings : List (String × Except PathFault (List UInt8))) :
    List Text × Verdict :=
  let (files, stop) := readFiles readings
  (files.flatMap rejectionNotices,
    match stop with
    | some (path, fault) => .refused (.unreadable path fault)
    | none => (Compilation.mk files).verdict validates)

/-- A line as it is printed. -/
def lineOf (text : Text) : Text := "[dnr_compile] " ++ text ++ "\n"

/-! ## Runs in a folder -/

/-- How a run ended: with an exit status, or with a failure that it does not handle. -/
structure Outcome where
  ending : Except Report Nat
  /-- the lines on the standard output -/
  printed : List Text
  /-- the lines on the standard error output -/
  noticed : List Text
  folder : Folder

/-- The texts that a compilation is written as, with their paths. -/
def Compilation.texts (c : Compilation) (out : String) (report : Option String) :
    List (String × String) :=
  (out, c.document ++ "\n") ::
    report.toList.map fun path => (path, (c.report out).pretty ++ "\n")

/-- Writes texts in order up to the first that cannot be written. -/
def writeTexts : Folder → List (String × String) → Folder × Option PathFault
  | folder, [] => (folder, none)
  | folder, (path, text) :: rest =>
    match folder.write path text.toUTF8.toList with
    | .ok folder => writeTexts folder rest
    | .error fault => (folder, some fault)

/-- Writes a compilation; the folder of the rule list is made if need be. -/
def Compilation.write (c : Compilation) (out : String) (report : Option String)
    (folder : Folder) : Folder × Option PathFault :=
  match folder.ensureFoldersOf out with
  | .ok folder => writeTexts folder (c.texts out report)
  | .error fault => (folder, some fault)

/-- The report of a path that cannot be written. -/
def PathFault.report (fault : PathFault) : Report := ⟨.internal fault.cause.label, fault.message⟩

/-- A run of the compiler in a folder. -/
def run (arguments : Arguments) (folder : Folder) : Outcome :=
  let (notices, verdict) :=
    judge arguments.validates (arguments.ruleFiles.map fun path => (path, folder.read path))
  match verdict, arguments.out with
  | .compiled c, some out =>
    match c.write out arguments.report folder with
    | (folder, none) => ⟨.ok 0, [c.summary], notices, folder⟩
    | (folder, some fault) => ⟨.error fault.report, [], notices, folder⟩
  | .compiled _, none => ⟨.error Defect.noPath.report, [], notices, folder⟩
  | .broken defect, _ => ⟨.error defect.report, [], notices, folder⟩
  | .refused refusal, _ => ⟨.ok refusal.status, [], notices ++ [↑refusal.message], folder⟩

end ContentBlocker.Offline
