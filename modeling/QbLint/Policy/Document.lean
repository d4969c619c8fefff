import QbLint.Document.Merge
import QbLint.Policy.Basic

/-!
# Policies as documents

A policy is read from a mapping of sections; a section, a list or a field that is left out has its
default, and so has a section or list that is null or empty. It is written as a mapping of all its
fields.

* `Policy.ofEntries`: the policy in a mapping, or the first reason why there is none;
* `Policy.entries`: a policy as a mapping;
* `Policy.ofOverlay`: the policy of a mapping laid over the built-in policy.
-/

namespace QbLint.Policy

/-- The value of a field, if it counts as given. -/
def given? (entries : Entries) (key : String) : Option Document :=
  (entries.get? key).filter Document.truthy

/-- The entries of a section. -/
def section? (entries : Entries) (name : String) : Except PolicyError Entries :=
  match given? entries name with
  | none => .ok []
  | some (.map entries) => .ok entries
  | some _ => .error (.sectionNotMapping name)

/-- A field that must be a truth value; false if it is absent. -/
def flag (section_ key : String) (entries : Entries) : Except PolicyError Bool :=
  match entries.get? key with
  | none => .ok false
  | some (.scalar (.bool b)) => .ok b
  | some value => .error (.telling value (.fieldKind section_ key "bool" value))

/-- A field that must be a whole number. -/
def count (section_ key : String) (default : Int) (entries : Entries) : Except PolicyError Int :=
  match entries.get? key with
  | none => .ok default
  | some (.scalar (.int n)) => .ok n
  | some value => .error (.telling value (.fieldKind section_ key "int" value))

/-- The keys of an override. -/
def overrideKeys : List String := ["rule_id", "severity", "reason"]

/-- The fault of the keys of an override, if there is one. -/
def overrideShape? (entries : Entries) : Option OverrideShape :=
  let texts := entries.filterMap fun (key, _) =>
    match key with
    | .text s => some s
    | _ => none
  if texts.length < entries.length then some .keyNotText
  else
    match texts.find? fun key => !overrideKeys.contains key with
    | some key => some (if key = "self" then .reservedKey else .unknownKey key)
    | none =>
      match ["rule_id", "severity"].filter fun key => !texts.contains key with
      | [] => none
      | keys => some (.missingKeys keys)

/-- The mappings of a list that has nothing else in it. -/
def mappings? (items : List Document) : Option (List Entries) :=
  items.mapM fun item =>
    match item with
    | .map entries => some entries
    | _ => none

/-- The texts of a list that has nothing else in it. -/
def texts? (items : List Document) : Option (List String) :=
  items.mapM fun item =>
    match item with
    | .scalar (.text s) => some s
    | _ => none

/-- The mappings of the severity overrides, whose keys are those of overrides. -/
def overrideEntries (entries : Entries) : Except PolicyError (List Entries) :=
  match given? entries "severity_overrides" with
  | none => .ok []
  | some (.list items) =>
    match mappings? items with
    | none => .error .overridesNotList
    | some mappings =>
      match mappings.findSome? overrideShape? with
      | some shape => .error (.overrideShape shape)
      | none => .ok mappings
  | some _ => .error .overridesNotList

/-- The ids of the disabled rules as they are listed. -/
def disabledIds (entries : Entries) : Except PolicyError (List String) :=
  match given? entries "disabled_rules" with
  | none => .ok []
  | some (.list items) =>
    match texts? items with
    | none => .error .disabledNotList
    | some ids => .ok ids
  | some _ => .error .disabledNotList

/-- The text of a field, which may have any value that can be written. -/
def label (entries : Entries) (key default : String) : Except PolicyError String :=
  match entries.get? key with
  | none => .ok default
  | some value => if value.isWritable then .ok value.display else .error .unwritable

/-- The override that a mapping holds. -/
def overrideOf (entries : Entries) : Except PolicyError Override :=
  Override.of? ((entries.get? "rule_id").getD .null) ((entries.get? "severity").getD .null)
    ((entries.get? "reason").getD (.text ""))

/-- The policy in a mapping. -/
def ofEntries (order : SetOrder) (entries : Entries) : Except PolicyError Policy := do
  let opcodes ← section? entries "opcodes"
  let nesting ← section? entries "nesting"
  let structs ← section? entries "structs"
  let overrides ← overrideEntries entries
  let disabled ← disabledIds entries
  let name ← label entries "policy_name" "default"
  let version ← label entries "policy_version" "1.0"
  let presetBase ← label entries "preset_base" "balanced"
  let correctedRanges ← flag "opcodes" "corrected_ranges" opcodes
  let checkBalance ← flag "nesting" "check_balance_at_end" nesting
  let maxPadding ← count "structs" "max_padding" 5 structs
  (order.arrange disabled).forM checkDisabled
  let policy : Policy :=
    { name, version, presetBase
      options := { correctedRanges, checkBalance, maxPadding }
      overrides := ← overrides.mapM overrideOf
      disabled := disabled.eraseDups.mergeSort (· ≤ ·) }
  policy.check order
  return policy

/-- The header of a written policy. -/
def header : String :=
  "# QbScript Linter – Scan Policy\n" ++
    "# Only include sections you want to override; omitted sections\n" ++
    "# will use the built-in defaults.\n\n"

/-- An override as a mapping. -/
def overrideEntry (o : Override) : Document :=
  .record [("rule_id", .text o.ruleId), ("severity", .text o.severity), ("reason", o.reason)]

/-- A policy as a mapping. -/
def fields (p : Policy) : List (String × Document) :=
  [("policy_name", .text p.name), ("policy_version", .text p.version),
    ("preset_base", .text p.presetBase),
    ("opcodes", .record [("corrected_ranges", .bool p.options.correctedRanges)]),
    ("nesting", .record [("check_balance_at_end", .bool p.options.checkBalance)]),
    ("structs", .record [("max_padding", .int p.options.maxPadding)]),
    ("severity_overrides", .list (p.overrides.map overrideEntry)),
    ("disabled_rules", .list (p.disabled.map .text))]

/-- The entries of a policy. -/
def entries (p : Policy) : Entries := p.fields.map fun (key, value) => (.text key, value)

/-- Whether two policies say the same. -/
def agrees (p q : Policy) : Bool :=
  (Document.map p.entries).agrees (.map q.entries)

/-- The policy of a mapping laid over the built-in one. -/
def ofOverlay (order : SetOrder) (upper : Entries) : Except PolicyError Policy :=
  ofEntries order (Entries.overlay (({} : Policy).entries) upper)

end QbLint.Policy
