import QbLint.Document.Display
import QbLint.Formats
import QbLint.Script.Instruction
import QbLint.Text.Case

/-!
# Policies

A policy decides which rules count, how severe their defects are, and what a scan accepts. It is
valid if it names only known rules, disables none that ends a scan, and gives defects only the
severities that a passed-over defect can have.

* `Policy.check`: the first fault of a policy;
* `Policy.override?`: the severity that a policy gives to a rule, by the first entry for it;
* `Policy.apply`: the diagnostics of a scan under a policy; those that ended it stay as they are.
-/

namespace QbLint

/-- The severity that a policy gives to the defects of a rule, and why. -/
structure Override where
  ruleId : String
  severity : String
  reason : Document := .text ""

/-- What is linted for, and how severely. -/
structure Policy where
  name : String := "default"
  version : String := "1.0"
  presetBase : String := "balanced"
  options : ScanOptions := {}
  overrides : List Override := []
  /-- The ids of the rules whose defects are dropped, in ascending order. -/
  disabled : List String := []

/-- Why the entry of a severity override has the wrong keys. -/
inductive OverrideShape
  /-- A key is not a text. -/
  | keyNotText
  /-- The name of the record itself stands among the keys. -/
  | reservedKey
  /-- A key is not one of an override's. -/
  | unknownKey (key : String)
  /-- Keys that an override must have are not there. -/
  | missingKeys (keys : List String)
  deriving DecidableEq

/-- Why a document is no policy. -/
inductive PolicyError
  /-- The text of a file is no document, for a reason that its reader tells. -/
  | malformedText (path reason : String)
  | notMapping (path : String)
  | sectionNotMapping (name : String)
  | overridesNotList
  | overrideShape (shape : OverrideShape)
  | disabledNotList
  /-- A field has a value of another kind than it must. -/
  | fieldKind (section_ key kind : String) (value : Document)
  | unknownDisabled (ruleId : String)
  | fatalDisabled (ruleId : String)
  | unknownOverridden (ruleId : Document)
  | severityNotText (ruleId : String) (severity : Document)
  | invalidSeverity (ruleId severity : String)
  | unassignableSeverity (ruleId : String) (severity : Severity)
  | negativePadding
  /-- A value that is to be told has too many digits; the shape of the document may be right. -/
  | unwritable

/-- The fault of an override's keys in words. -/
def OverrideShape.message : OverrideShape → String
  | keyNotText => "keywords must be strings"
  | reservedKey => "SeverityOverride.__init__() got multiple values for argument 'self'"
  | unknownKey key =>
    "SeverityOverride.__init__() got an unexpected keyword argument '" ++ key ++ "'"
  | missingKeys keys =>
    "SeverityOverride.__init__() missing " ++ toString keys.length ++
      " required positional argument" ++ (if keys.length = 1 then "" else "s") ++ ": " ++
      " and ".intercalate (keys.map fun key => "'" ++ key ++ "'")

/-- The fault in words. -/
def PolicyError.message : PolicyError → String
  | malformedText path reason => "Invalid policy YAML in " ++ path ++ ": " ++ reason
  | notMapping path => "Policy file " ++ path ++ " must contain a mapping"
  | sectionNotMapping name => "Policy section '" ++ name ++ "' must be a mapping"
  | overridesNotList => "severity_overrides must be a list of mappings"
  | overrideShape shape => "Malformed severity override: " ++ shape.message
  | disabledNotList => "disabled_rules must be a list of rule ids"
  | fieldKind section_ key kind value =>
    section_ ++ "." ++ key ++ " must be " ++ kind ++ ", got " ++ value.written
  | unknownDisabled ruleId => "Unknown rule in disabled_rules: " ++ ruleId
  | fatalDisabled ruleId => "Fatal rule " ++ ruleId ++ " cannot be disabled"
  | unknownOverridden ruleId => "Unknown rule in severity_overrides: " ++ ruleId.display
  | severityNotText ruleId severity =>
    "Severity for " ++ ruleId ++ " must be a string, got " ++ severity.written
  | invalidSeverity ruleId severity => "Invalid severity '" ++ severity ++ "' for " ++ ruleId
  | unassignableSeverity ruleId severity =>
    "Severity " ++ severity.name ++ " cannot be assigned by override (" ++ ruleId ++ ")"
  | negativePadding => "structs.max_padding must be non-negative"
  | unwritable => Text.unwritable

/-- A fault that tells a value, if the value can be written, and else that it cannot. -/
def PolicyError.telling (value : Document) (fault : PolicyError) : PolicyError :=
  if value.isWritable then fault else .unwritable

/-- The severity that a text names, in whatever case. -/
def Severity.ofText? (s : String) : Option Severity := Severity.ofName? (Text.upper s)

/-- The override of a rule with a severity, both as documents hold them. -/
def Override.of? (ruleId severity reason : Document) : Except PolicyError Override :=
  match ruleId with
  | .scalar (.text id) =>
    if (Rule.ofId? id).isNone then .error (.unknownOverridden ruleId)
    else
      match severity with
      | .scalar (.text text) =>
        match Severity.ofText? text with
        | none => .error (.invalidSeverity id text)
        | some .fatal => .error (.unassignableSeverity id .fatal)
        | some .clean => .error (.unassignableSeverity id .clean)
        | some _ => .ok ⟨id, text, reason⟩
      | _ => .error (.telling severity (.severityNotText id severity))
  | _ => .error (.telling ruleId (.unknownOverridden ruleId))

namespace Policy

/-- A rule may be disabled if it is known and its defects do not end a scan. -/
def checkDisabled (ruleId : String) : Except PolicyError Unit :=
  match Rule.ofId? ruleId with
  | none => .error (.unknownDisabled ruleId)
  | some rule => if rule.fatal then .error (.fatalDisabled ruleId) else .ok ()

/-- The first fault of a policy, where the disabled rules are gone through in an order. -/
def check (p : Policy) (order : SetOrder) : Except PolicyError Unit := do
  (order.arrange p.disabled).forM checkDisabled
  p.overrides.forM fun o => do
    let _ ← Override.of? (.text o.ruleId) (.text o.severity) o.reason
  if p.options.maxPadding < 0 then .error .negativePadding else .ok ()

/-- The severity that the policy gives to a rule, as it is spelled there. -/
def override? (p : Policy) (ruleId : String) : Option String :=
  (p.overrides.find? (·.ruleId == ruleId)).map (·.severity)

/-- A diagnostic with the severity that the policy gives to it. A spelling of no severity is handed
back instead. -/
def reassess (p : Policy) (d : Diagnostic) : Except String Diagnostic :=
  if d.fatal then .ok d
  else
    match p.override? d.ruleId with
    | none => .ok d
    | some spelling =>
      if spelling.isEmpty then .ok d
      else
        match Severity.ofText? spelling with
        | some severity => .ok { d with severity }
        | none => .error (Text.upper spelling)

/-- The diagnostics of a scan under the policy, in their order. -/
def apply (p : Policy) (diagnostics : List Diagnostic) : Except String (List Diagnostic) :=
  (diagnostics.filter fun d => d.fatal || !p.disabled.contains d.ruleId).mapM p.reassess

end Policy

end QbLint
