import QbLint.Number.Duration
import QbLint.Script.Diagnostic

/-!
# Lint results and reports

What linting one script comes to, and what linting several adds up to. A report counts as results
are added to it.

* `LintResult.maxSeverity`: the worst severity among a result's diagnostics;
* `Report.add`: a report with one more result;
* `Report.hasErrors`: whether some result should fail the run.
-/

namespace QbLint

/-- The result of linting one script. -/
structure LintResult where
  path : String
  diagnostics : List Diagnostic := []
  size : Int := 0
  scanned : Int := 0
  duration : Duration := .zero
  timestamp : String
  policyName : String := "default"
  deriving Inhabited

namespace LintResult

/-- Whether nothing was found. -/
def isClean (r : LintResult) : Bool := r.diagnostics.isEmpty

/-- Whether a defect ended the scan. -/
def aborted (r : LintResult) : Bool := r.diagnostics.any (·.fatal)

/-- Whether some diagnostic should fail the run. -/
def hasErrors (r : LintResult) : Bool :=
  r.diagnostics.any fun d => d.severity = .fatal ∨ d.severity = .error

/-- The diagnostics of a severity. -/
def ofSeverity (r : LintResult) (s : Severity) : List Diagnostic :=
  r.diagnostics.filter (·.severity = s)

/-- The diagnostics of a rule. -/
def ofRule (r : LintResult) (ruleId : String) : List Diagnostic :=
  r.diagnostics.filter (·.ruleId = ruleId)

/-- The worst severity that a diagnostic has. -/
def maxSeverity (r : LintResult) : Severity :=
  (Severity.ranking.find? fun s => r.diagnostics.any (·.severity = s)).getD .clean

/-- The place of the diagnostic that ended the scan. -/
def fatalIndex? (r : LintResult) : Option Nat := r.diagnostics.findIdx? (·.fatal)

end LintResult

/-- The results of linting several scripts, and what they add up to. -/
structure Report where
  results : List LintResult := []
  files : Nat := 0
  diagnostics : Nat := 0
  fatal : Nat := 0
  error : Nat := 0
  warning : Nat := 0
  info : Nat := 0
  clean : Nat := 0
  timestamp : String

namespace Report

/-- Counts a diagnostic by its severity. -/
def count (report : Report) (d : Diagnostic) : Report :=
  match d.severity with
  | .fatal => { report with fatal := report.fatal + 1 }
  | .error => { report with error := report.error + 1 }
  | .warning => { report with warning := report.warning + 1 }
  | .info => { report with info := report.info + 1 }
  | .clean => report

/-- A report with one more result. -/
def add (report : Report) (r : LintResult) : Report :=
  r.diagnostics.foldl count
    { report with
      results := report.results ++ [r]
      files := report.files + 1
      diagnostics := report.diagnostics + r.diagnostics.length
      clean := if r.isClean then report.clean + 1 else report.clean }

/-- The report of some results. -/
def ofResults (timestamp : String) (results : List LintResult) : Report :=
  results.foldl add { timestamp }

/-- The results that should fail the run. -/
def failed (report : Report) : List LintResult := report.results.filter (·.hasErrors)

/-- Whether some result should fail the run. -/
def hasErrors (report : Report) : Bool := report.results.any (·.hasErrors)

/-- The exit status of a run. -/
def exitStatus (report : Report) (failOnWarnings : Bool) : Nat :=
  if report.hasErrors then 1
  else if failOnWarnings && 0 < report.warning then 1
  else 0

end Report

/-- What a rendered report is about: one script, or all of them. -/
inductive Subject
  | single (r : LintResult)
  | all (report : Report)

/-- The results of a subject. -/
def Subject.results : Subject → List LintResult
  | single r => [r]
  | all report => report.results

/-- The timestamp of a subject. -/
def Subject.timestamp : Subject → String
  | single r => r.timestamp
  | all report => report.timestamp

end QbLint
