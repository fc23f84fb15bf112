import ContentBlocker.Offline.Run

/-!
# The offline compiler as a program

Reads the rule files, lets `judge` decide, and writes and prints what comes of it.
-/

namespace ContentBlocker.Offline

/-- Why the system refused a path, if it is one of the causes that are told apart. -/
def causeOf : IO.Error → Option PathCause
  | .noFileOrDirectory _ _ _ => some .notFound
  | .permissionDenied _ _ _ => some .denied
  | .alreadyExists _ _ _ => some .alreadyThere
  | .inappropriateType _ code _ => some (if code = 21 then .isFolder else .notFolder)
  | _ => none

/-- The bytes of a file, or why there are none. -/
def readBytes (path : String) : IO (Except PathFault (List UInt8)) := do
  try
    let bytes ← IO.FS.readBinFile path
    return .ok bytes.toList
  catch e =>
    match causeOf e with
    | some cause => return .error ⟨cause, path⟩
    | none => throw e

/-- Writes a compilation; the folder of the rule list is made if need be. -/
def writeAll (c : Compilation) (out : String) (report : Option String) : IO Unit := do
  let start := (Folder.splitPath out.toList).1
  unless start.isEmpty do IO.FS.createDirAll (String.ofList start)
  for (path, text) in c.texts out report do
    IO.FS.writeFile path text

def complain (defect : Defect) : IO UInt32 := do
  IO.eprintln s!"{defect.label}: {defect.text}"
  return 1

def perform (arguments : Arguments) : IO UInt32 := do
  let readings ← arguments.ruleFiles.mapM fun path => return (path, ← readBytes path)
  let (notices, verdict) := judge arguments.validates readings
  for notice in notices do IO.eprint (lineOf notice).lossy
  match verdict, arguments.out with
  | .refused refusal, _ =>
    IO.eprint (lineOf refusal.message).lossy
    return UInt32.ofNat refusal.status
  | .broken defect, _ => complain defect
  | .compiled _, none => complain .noPath
  | .compiled c, some out =>
    writeAll c out arguments.report
    IO.print (lineOf c.summary).lossy
    return 0

end ContentBlocker.Offline

open ContentBlocker.Offline in
def main (texts : List String) : IO UInt32 := do
  match Arguments.ofStrings texts with
  | .ok arguments => perform arguments
  | .error .help =>
    IO.print help
    return 0
  | .error (.fault fault) =>
    IO.eprintln usage
    IO.eprintln s!"dnr_compile: error: {fault.message}"
    return UInt32.ofNat (Stop.fault fault).status
