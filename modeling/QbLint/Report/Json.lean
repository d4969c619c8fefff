import QbLint.Document.Json
import QbLint.Report.Basic

/-!
# JSON reports

Results and reports as documents, field by field, and their JSON text.
-/

namespace QbLint.JsonReport

/-- A diagnostic as a document. -/
def diagnostic (d : Diagnostic) : Document :=
  .record
    [("position", .int d.position), ("offset_hex", .text d.offsetText),
      ("message", .text d.message), ("rule_id", .text d.ruleId),
      ("severity", .text d.severity.name), ("fatal", .bool d.fatal),
      ("metadata", .record d.metadata)]

/-- The fields of a result. -/
def resultFields (r : LintResult) : List (String × Document) :=
  [("script_path", .text r.path), ("is_clean", .bool r.isClean),
    ("has_errors", .bool r.hasErrors), ("aborted", .bool r.aborted),
    ("max_severity", .text r.maxSeverity.name), ("size_bytes", .int r.size),
    ("bytes_scanned", .int r.scanned), ("diagnostics_count", .int r.diagnostics.length),
    ("diagnostics", .list (r.diagnostics.map diagnostic)),
    ("scan_duration_seconds", .scalar (.float r.duration.seconds)),
    ("duration_ms", .int r.duration.milliseconds), ("policy_name", .text r.policyName),
    ("timestamp", .text r.timestamp)]

/-- What a report adds up to, as a document. -/
def summary (report : Report) : Document :=
  .record
    [("total_files_scanned", .int report.files), ("total_diagnostics", .int report.diagnostics),
      ("clean_files", .int report.clean),
      ("diagnostics_by_severity",
        .record [("fatal", .int report.fatal), ("error", .int report.error),
          ("warning", .int report.warning), ("info", .int report.info)]),
      ("timestamp", .text report.timestamp)]

/-- A subject as a document. -/
def document : Subject → Document
  | .single r => .record (resultFields r)
  | .all report =>
    .record [("summary", summary report),
      ("results", .list (report.results.map fun r => .record (resultFields r)))]

/-- The report of a subject, with one field a line or without white space. -/
def render (layout : Json.Layout) (subject : Subject) : String :=
  Json.render layout 0 (document subject)

end QbLint.JsonReport
