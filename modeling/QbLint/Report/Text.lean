import QbLint.Document.Display
import QbLint.Report.Basic

/-!
# Text reports

A block for each script: its path between `===`, a line for each diagnostic, and two empty lines.
A diagnostic line begins with `##` and the offset. The one that ended the scan begins with `@@`;
with its offset for a script that is cut short, and without one for a script that could not be read.
Where there is a reason for stopping, the defect has a `##` line and the reason a `@@` line.
-/

namespace QbLint.TextReport

/-- The reason for stopping that a diagnostic holds, if it counts as given. -/
def reason? (d : Diagnostic) : Option Document :=
  (d.metadata.lookup "reason").filter Document.truthy

/-- The text of a diagnostic, one line or two. -/
def diagnostic (showSeverity : Bool) (d : Diagnostic) : String :=
  let suffix := if showSeverity then " [" ++ d.severity.name ++ "]" else ""
  let located := d.offsetText ++ ": " ++ d.message ++ suffix
  if !d.fatal then "## " ++ located
  else if d.ruleId = Rule.fileNotFound.id then "@@ " ++ d.message ++ suffix
  else
    match reason? d with
    | some reason => "## " ++ located ++ "\n@@ " ++ reason.display
    | none => "@@ " ++ located

/-- The block of a script. -/
def block (showSeverity : Bool) (r : LintResult) : List String :=
  ("=== " ++ r.path ++ " ===") :: r.diagnostics.map (diagnostic showSeverity) ++
    (if r.isClean then [">> No errors found"] else []) ++ ["", ""]

/-- What all scripts add up to. -/
def total (report : Report) : String :=
  s!"{report.files} file(s) checked, {report.clean} clean, {report.failed.length} with errors"

/-- The report of a subject. -/
def render (showSeverity : Bool) : Subject → String
  | .single r => "\n".intercalate (block showSeverity r)
  | .all report =>
    "\n".intercalate (report.results.flatMap (block showSeverity) ++ [total report])

end QbLint.TextReport
