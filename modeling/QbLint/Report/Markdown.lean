import QbLint.Document.Display
import QbLint.Report.Basic
import QbLint.Text.Case

/-!
# Markdown reports

A heading, a summary, and tables of diagnostics. A bar within a message is escaped, because bars
separate the cells of a table.
-/

namespace QbLint.MarkdownReport

/-- The status of a result in brackets. -/
def status (r : LintResult) : String :=
  if r.isClean then "[OK]"
  else if r.aborted then "[ABORTED]"
  else if r.hasErrors then "[FAIL]"
  else "[WARN]"

/-- A message as the content of a table cell. -/
def cell (message : String) : String :=
  String.ofList (message.toList.flatMap fun c => if c = '|' then ['\\', '|'] else [c])

/-- The rule of a diagnostic: its id, and its title if it is in the catalogue. -/
def ruleLabel (ruleId : String) : String :=
  match Rule.ofId? ruleId with
  | some rule => "\x60" ++ rule.id ++ "\x60 (" ++ rule.title ++ ")"
  | none => "\x60" ++ ruleId ++ "\x60"

/-- The row of a diagnostic. -/
def row (d : Diagnostic) : String :=
  "| \x60" ++ d.offsetText ++ "\x60 | " ++ d.severity.name ++ " | " ++ ruleLabel d.ruleId ++
    " | " ++ cell d.message ++ " |"

/-- The table of some diagnostics. -/
def table (diagnostics : List Diagnostic) : List String :=
  "| Offset | Severity | Rule | Message |" :: "|---|---|---|---|" :: diagnostics.map row ++ [""]

/-- The lines about one script on its own. -/
def single (r : LintResult) : List String :=
  ["# QB Script Lint Report", "", "**Script:** " ++ r.path, "**Status:** " ++ status r,
    "**Size:** " ++ toString r.size ++ " bytes", "**Policy:** " ++ r.policyName,
    "**Scan Duration:** " ++ r.duration.seconds.fixed floatNames 3 ++ "s",
    "**Timestamp:** " ++ r.timestamp, "", "## Summary", "",
    "- **Total Diagnostics:** " ++ toString r.diagnostics.length] ++
  (Severity.ranking.map fun s =>
    "- **" ++ Text.title s.name ++ ":** " ++ toString (r.ofSeverity s).length) ++
  "" ::
  if r.isClean then ["## [OK] No errors found", ""]
  else "## Diagnostics" :: "" :: table r.diagnostics

/-- The lines about one script among several. -/
def entry (detailed : Bool) (r : LintResult) : List String :=
  ["\n---\n", "### " ++ status r ++ " " ++ r.path, "",
    "- **Max Severity:** " ++ r.maxSeverity.name,
    "- **Diagnostics:** " ++ toString r.diagnostics.length, ""] ++
  if detailed && !r.isClean then table r.diagnostics else []

/-- The lines about several scripts. -/
def several (detailed : Bool) (report : Report) : List String :=
  ["# QB Script Lint Report", "", "**Timestamp:** " ++ report.timestamp, "", "## Summary", "",
    "- **Files Checked:** " ++ toString report.files,
    "- **Clean Files:** " ++ toString report.clean,
    "- **Total Diagnostics:** " ++ toString report.diagnostics, "", "### Diagnostics by Severity",
    "", "- **Fatal:** " ++ toString report.fatal, "- **Error:** " ++ toString report.error,
    "- **Warning:** " ++ toString report.warning, "- **Info:** " ++ toString report.info, "",
    "## Files", ""] ++
  report.results.flatMap (entry detailed)

/-- The report of a subject; `detailed` lists the diagnostics where there are several scripts. -/
def render (detailed : Bool) : Subject → String
  | .single r => "\n".intercalate (single r)
  | .all report => "\n".intercalate (several detailed report)

end QbLint.MarkdownReport
