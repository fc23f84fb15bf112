import ContentBlocker.Digest.Sha256
import ContentBlocker.Offline.RuleFile
import ContentBlocker.RuleList.Conversion
import ContentBlocker.RuleList.Validation

/-!
# Compilation of rule files

The rules of all files, in the order of the files, become one rule list.  The report holds the
figures of every file under its path; a path that is given twice is reported as it was read last.
-/

namespace ContentBlocker.Offline

structure Compilation where
  files : List RuleFile

namespace Compilation

/-- The rules of all files. -/
def rules (c : Compilation) : List Rule := c.files.flatMap (·.batch.rules)

/-- How many malformed rules the files hold. -/
def invalid (c : Compilation) : Nat := (c.files.flatMap (·.batch.rejected)).length

def conversion (c : Compilation) : RuleList.Conversion := .ofRules c.rules

/-- The rule list as a document. -/
def document (c : Compilation) : String := c.conversion.document

/-- Checks the rule list; a list without entries is not checked. -/
def check (c : Compilation) : Except (RuleList.Finding RuleList.Rejection) Unit :=
  if c.conversion.entries.isEmpty then .ok ()
  else (RuleList.validate c.document).map fun _ => ()

/-! ## The report -/

/-- The figures of the files. -/
def fileFigures (c : Compilation) : Fields :=
  c.files.foldl (fun figures f => figures.set f.path f.figures) []

def counts (c : Compilation) : List (String × Nat) :=
  let conversion := c.conversion
  [("total", conversion.total), ("emitted", conversion.entries.length),
    ("degraded", conversion.degraded.length), ("dropped", conversion.dropped.length),
    ("invalid", c.invalid)]

/-- The report of a compilation whose rule list goes to a path. -/
def report (c : Compilation) (out : String) : Json :=
  .obj
    [("files", .obj c.fileFigures),
      ("counts", .obj (c.counts.map fun (name, n) => (name, .int n))),
      ("degraded_rule_ids", .arr (c.conversion.degraded.map .int)),
      ("dropped_rule_ids", .arr (c.conversion.dropped.map .int)),
      ("sha256", .str (Digest.sha256 c.document)),
      ("out", .str out)]

/-- The line that tells of a compilation. -/
def summary (c : Compilation) : String :=
  "compiled: " ++ " ".intercalate (c.counts.map fun (name, n) => s!"{name}={n}")

end Compilation

end ContentBlocker.Offline
