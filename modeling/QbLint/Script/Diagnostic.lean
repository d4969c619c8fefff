import QbLint.Document.Basic
import QbLint.Script.Rule
import QbLint.Text.Hex

/-!
# Diagnostics

A diagnostic is a defect found at an offset, as reports show it. Its rule is named by id, because
reports may also hold diagnostics of rules outside the catalogue.

* `Rule.report`, `Rule.abort`: the diagnostic of a defect that is passed over, and of one that ends
  the scan;
* `Outcome`: the diagnostics of one scan in the order of discovery, and how far it came.
-/

namespace QbLint

/-- A defect at an offset of a script. -/
structure Diagnostic where
  position : Int
  message : String
  ruleId : String
  severity : Severity := .error
  fatal : Bool := false
  metadata : List (String × Document) := []
  deriving Inhabited

/-- The offset of a diagnostic in hexadecimal, eight characters or more. -/
def Diagnostic.offsetText (d : Diagnostic) : String := Hex.padded 8 d.position

namespace Rule

/-- The diagnostic of a defect after which the scan goes on. -/
def report (rule : Rule) (message : String) (position : Int) : Diagnostic :=
  { position, message, ruleId := rule.id, severity := rule.severity }

/-- The diagnostic of the defect that ends a scan. -/
def abort (rule : Rule) (message : String) (position : Int) (metadata : List (String × Document)) :
    Diagnostic :=
  { position, message, ruleId := rule.id, severity := rule.severity, fatal := true, metadata }

end Rule

/-- What a scan found, in the order of discovery, and how many bytes it came past. -/
structure Outcome where
  diagnostics : List Diagnostic
  bytesScanned : Int
  deriving Inhabited

namespace Outcome

/-- Whether a defect ended the scan before the end of the buffer. -/
def aborted (o : Outcome) : Bool := o.diagnostics.any (·.fatal)

/-- Whether nothing was found. -/
def isClean (o : Outcome) : Bool := o.diagnostics.isEmpty

end Outcome

end QbLint
