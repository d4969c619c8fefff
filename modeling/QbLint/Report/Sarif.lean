import QbLint.Document.Json
import QbLint.Report.Basic
import QbLint.Text.Case

/-!
# SARIF reports

Reports in version 2.1.0 of the Static Analysis Results Interchange Format. Scripts are binary, so a
result has a byte offset for its region. Each rule that occurs is described once, in the order of
first occurrence.

* `SarifReport.ruleIndex`: the descriptions of the rules that occur;
* `SarifReport.document`: a report as a document.
-/

namespace QbLint.SarifReport

/-- The tool that a report names. -/
structure Tool where
  name : String := "qbscript-lint"
  version : String := "1.0.0"

/-- The schema that a report names. -/
def schema : String :=
  "https://raw.githubusercontent.com/oasis-tcs/sarif-spec/master/Schemata/sarif-schema-2.1.0.json"

/-- The level of a severity. -/
def level : Severity → String
  | .fatal | .error => "error"
  | .warning => "warning"
  | .info => "note"
  | .clean => "none"

/-- The name of a rule for readers: its id in title case, with spaces for underscores. -/
def ruleName (ruleId : String) : String :=
  Text.title (String.ofList (ruleId.toList.map fun c => if c = '_' then ' ' else c))

/-- The description of the rule of a diagnostic. A rule outside the catalogue is described by the
diagnostic. -/
def ruleEntry (d : Diagnostic) : Document :=
  let rule? := Rule.ofId? d.ruleId
  let severity := (rule?.map Rule.severity).getD d.severity
  .record
    [("id", .text d.ruleId), ("name", .text (ruleName d.ruleId)),
      ("shortDescription", .record [("text", .text ((rule?.map Rule.title).getD d.ruleId))]),
      ("fullDescription", .record [("text", .text ((rule?.map Rule.description).getD d.message))]),
      ("defaultConfiguration", .record [("level", .text (level severity))]),
      ("properties",
        .record [("severity", .text severity.name), ("fatal", .bool (rule?.any Rule.fatal))])]

/-- The first diagnostic of each rule that is not among those seen. -/
def firstOfRules (seen : List String) : List Diagnostic → List Diagnostic
  | [] => []
  | d :: rest =>
    if seen.contains d.ruleId then firstOfRules seen rest
    else d :: firstOfRules (d.ruleId :: seen) rest

/-- The descriptions of the rules that occur. -/
def ruleIndex (diagnostics : List Diagnostic) : List Document :=
  (firstOfRules [] diagnostics).map ruleEntry

/-- A diagnostic of a script as a document. -/
def result (path : String) (d : Diagnostic) : Document :=
  .record
    [("ruleId", .text d.ruleId), ("level", .text (level d.severity)),
      ("message", .record [("text", .text d.message)]),
      ("locations",
        .list [.record [("physicalLocation",
          .record
            [("artifactLocation",
              .record [("uri", .text path), ("uriBaseId", .text "%SRCROOT%")]),
              ("region",
                .record [("byteOffset", .int d.position), ("byteLength", .int 1)])])]]),
      ("properties",
        .record [("severity", .text d.severity.name), ("offsetHex", .text d.offsetText),
          ("fatal", .bool d.fatal)])]

/-- A subject as a document. -/
def document (tool : Tool) (subject : Subject) : Document :=
  .record
    [("$schema", .text schema), ("version", .text "2.1.0"),
      ("runs",
        .list [.record
          [("tool",
            .record [("driver",
              .record
                [("name", .text tool.name), ("version", .text tool.version),
                  ("rules",
                    .list (ruleIndex (subject.results.flatMap (·.diagnostics))))])]),
            ("results",
              .list (subject.results.flatMap fun r => r.diagnostics.map (result r.path))),
            ("invocations",
              .list [.record
                [("executionSuccessful", .bool true),
                  ("endTimeUtc", .text (subject.timestamp ++ "Z"))]])]])]

/-- The report of a subject. -/
def render (tool : Tool) (subject : Subject) : String := Json.indented (document tool subject)

end QbLint.SarifReport
