import QbLint.Lint.Escape
import QbLint.Log
import QbLint.Policy.Basic
import QbLint.Report.Basic
import QbLint.Script.Scan

/-!
# Linting a script

The result of linting a script's bytes under a policy, and what a scan tells the log: each defect
when it is found, and before the defect of a jump where that jump leads.

* `Policy.result`: the result for a script of which a scan found something;
* `Outcome.logLines`: the log lines of a scan;
* `LintResult.notLoaded`: the result for a script that could not be loaded.
-/

namespace QbLint

/-- The offset of a jump's field and its role, for the rules about jumps. The defect of a short jump
stands at the jump and the others at the field. -/
def Diagnostic.jump? (d : Diagnostic) : Option (Nat × Jump.Role) :=
  match Rule.ofId? d.ruleId with
  | some .nextBranchOffset => some (d.position.toNat, .nextBranch)
  | some .endifOffset => some (d.position.toNat, .endif)
  | some .caseJumpTarget => some (d.position.toNat, .nextCase)
  | some .switchJumpTarget => some (d.position.toNat + 1, .endSwitch)
  | _ => none

/-- The log line about where a jump leads, for the diagnostic of a jump. -/
def Diagnostic.jumpLine? (data : Bytes) (d : Diagnostic) : Option Log.Line := do
  let (field, role) ← d.jump?
  let distance ← (data.uint16 field).toOption
  return ⟨.debug, .jumps,
    "Jump at " ++ Hex.padded 8 field ++ " (+" ++ toString distance ++ ") to " ++
      Hex.padded 8 (Jump.landing field distance) ++ " matched no " ++ role.name ++ " marker"⟩

/-- The log line about a diagnostic of a script. -/
def Diagnostic.logLine (path : String) (d : Diagnostic) : Log.Line :=
  if d.fatal then
    ⟨.warning, .collector, path ++ ": scan aborted at " ++ d.offsetText ++ ": " ++ d.message⟩
  else ⟨.debug, .collector, path ++ ": " ++ d.offsetText ++ ": " ++ d.message⟩

/-- The log lines of the scan of a script. -/
def Outcome.logLines (path : String) (data : Bytes) (outcome : Outcome) : List Log.Line :=
  ⟨.debug, .scanner, s!"Scanning {path} ({data.size} bytes)"⟩ ::
    outcome.diagnostics.flatMap fun d => (d.jumpLine? data).toList ++ [d.logLine path]

/-- The log line about a result. -/
def LintResult.logLine (r : LintResult) : Log.Line :=
  ⟨.info, .linter,
    r.path ++ ": " ++ toString r.diagnostics.length ++ " diagnostic(s)" ++
      if r.aborted then " (aborted)" else ""⟩

/-- The result of linting a script of which a scan found `outcome`. -/
def Policy.result (p : Policy) (path timestamp : String) (duration : Duration) (size : Nat)
    (outcome : Outcome) : Except UnknownSeverity LintResult := do
  let diagnostics ← (p.apply outcome.diagnostics).mapError UnknownSeverity.mk
  return { path, diagnostics, size, scanned := outcome.bytesScanned, duration, timestamp
           policyName := p.name }

/-- The result for a script that could not be loaded: a single defect, at its beginning. -/
def LintResult.notLoaded (path timestamp policyName message : String) : LintResult :=
  { path, timestamp, policyName, diagnostics := [Rule.fileNotFound.abort message 0 []] }

end QbLint
