import QbLint.Proofs.Counters
import QbLint.Proofs.JsonRead
import QbLint.Report.Json
import QbLint.Report.Sarif

/-!
# What machine-readable reports say

A JSON report and a SARIF report of the same results are read back from their texts. Both say the
same of each diagnostic, in the same order; the rules that a SARIF report describes are those that
occur in it; and the summary of a JSON report adds up what stands below it.

* `ReportEntry`: what both reports say of a diagnostic;
* `JsonReport.entries?`, `SarifReport.entries?`: what reports say, read from their values;
* `SarifReport.pairwise_firstOfRules`: rules are described in the order of first occurrence;
* `Report.readings_agree`: the reports of the same results agree.
-/

namespace QbLint

/-! ## Values -/

namespace Json

namespace Value

/-- The value of a key in an object; of several entries with one key the last one counts. -/
def field? : Value → String → Option Value
  | .map entries, key => entries.reverse.lookup key
  | _, _ => none

/-- The value of a key in an object that is the value of a key, and so on. -/
def at? (v : Value) (keys : List String) : Option Value := keys.foldlM field? v

/-- The text that a value is. -/
def text? : Value → Option String
  | .text s => some s
  | _ => none

/-- The number that decimal digits denote. -/
def natOf? (digits : List Char) : Option Nat :=
  if digits ≠ [] ∧ digits.all Char.isDigit then some (Nat.ofDigitChars 10 digits 0) else none

/-- The whole number that a value is. -/
def int? : Value → Option Int
  | .word s =>
    match s.toList with
    | '-' :: digits => (natOf? digits).map fun n => -(n : Int)
    | digits => (natOf? digits).map fun n => (n : Int)
  | _ => none

/-- The truth value that a value is. -/
def bool? : Value → Option Bool
  | .word s => if s = "true" then some true else if s = "false" then some false else none
  | _ => none

/-- The items that a value has. -/
def items? : Value → Option (List Value)
  | .list items => some items
  | _ => none

end Value

theorem natOf?_repr (n : Nat) : Value.natOf? (Nat.repr n).toList = some n := by
  rw [Nat.repr, String.toList_ofList, Value.natOf?, if_pos, Nat.ofDigitChars_ten_toDigits]
  refine ⟨Nat.toDigits_ne_nil, List.all_eq_true.mpr fun c hc => ?_⟩
  exact Nat.isDigit_of_mem_toDigits (by decide) (by decide) hc

theorem int?_valueOf (n : Int) : (valueOf (.int n)).int? = some n := by
  cases n with
  | ofNat n =>
    show Value.int? (.word (Nat.repr n)) = some (n : Int)
    unfold Value.int?
    dsimp only
    split
    · rename_i digits hdigits
      have hsign : '-' ∈ (Nat.repr n).toList := hdigits ▸ List.mem_cons_self
      rw [Nat.repr, String.toList_ofList] at hsign
      cases Nat.isDigit_of_mem_toDigits (by decide) (by decide) hsign
    · rw [natOf?_repr]
      rfl
  | negSucc n =>
    show Value.int? (.word ("-" ++ Nat.repr (n + 1))) = some (Int.negSucc n)
    have htoList : ("-" ++ Nat.repr (n + 1)).toList = '-' :: (Nat.repr (n + 1)).toList :=
      String.toList_append
    unfold Value.int?
    simp only [htoList, natOf?_repr]
    rfl

theorem bool?_valueOf (b : Bool) : (valueOf (.bool b)).bool? = some b := by
  cases b <;> simp [Document.bool, valueOf, bare, Value.bool?]

theorem itemValues_eq_map (items : List Document) : itemValues items = items.map valueOf := by
  induction items with
  | nil => rfl
  | cons item items ih => rw [itemValues, ih, List.map_cons]

end Json

/-! ## Entries -/

/-- What a report says of a diagnostic. -/
structure ReportEntry where
  path : String
  position : Int
  offset : String
  message : String
  ruleId : String
  severity : String
  fatal : Bool
  deriving DecidableEq

/-- What there is to say of a diagnostic of a script. -/
def ReportEntry.of (path : String) (d : Diagnostic) : ReportEntry :=
  { path, position := d.position, offset := d.offsetText, message := d.message, ruleId := d.ruleId,
    severity := d.severity.name, fatal := d.fatal }

/-- What there is to say of the diagnostics of a result. -/
def LintResult.entries (r : LintResult) : List ReportEntry := r.diagnostics.map (.of r.path)

theorem mapM_map_eq_some {α β γ : Type} {read : β → Option γ} {write : α → β} {f : α → γ}
    (h : ∀ a, read (write a) = some (f a)) (l : List α) :
    (l.map write).mapM read = some (l.map f) := by
  induction l with
  | nil => rfl
  | cons a l ih => rw [List.map_cons, List.mapM_cons, h, ih]; rfl

namespace JsonReport

/-- What the value of a diagnostic says. -/
def diagnostic? (path : String) (v : Json.Value) : Option ReportEntry := do
  return {
    path
    position := ← (← v.field? "position").int?
    offset := ← (← v.field? "offset_hex").text?
    message := ← (← v.field? "message").text?
    ruleId := ← (← v.field? "rule_id").text?
    severity := ← (← v.field? "severity").text?
    fatal := ← (← v.field? "fatal").bool? }

/-- What the value of a result says of its diagnostics. -/
def result? (v : Json.Value) : Option (List ReportEntry) := do
  let path ← (← v.field? "script_path").text?
  (← (← v.field? "diagnostics").items?).mapM (diagnostic? path)

/-- What a report says of the diagnostics of each result. -/
def results? (v : Json.Value) : Option (List (List ReportEntry)) := do
  (← (← v.field? "results").items?).mapM result?

theorem diagnostic?_valueOf (path : String) (d : Diagnostic) :
    diagnostic? path (Json.valueOf (diagnostic d)) = some (.of path d) := by
  have hposition : (Json.valueOf (diagnostic d)).field? "position" =
      some (Json.valueOf (.int d.position)) := rfl
  have hfatal : (Json.valueOf (diagnostic d)).field? "fatal" =
      some (Json.valueOf (.bool d.fatal)) := rfl
  unfold diagnostic?
  rw [hposition, hfatal]
  simp only [Option.bind_eq_bind, Option.bind_some, Json.int?_valueOf, Json.bool?_valueOf]
  rfl

theorem result?_resultFields (r : LintResult) :
    result? (Json.valueOf (.record (resultFields r))) = some r.entries := by
  have hdiagnostics : (Json.valueOf (.record (resultFields r))).field? "diagnostics" =
      some (.list (Json.itemValues (r.diagnostics.map diagnostic))) := rfl
  have hpath : (Json.valueOf (.record (resultFields r))).field? "script_path" =
      some (.text r.path) := rfl
  unfold result?
  rw [hpath, hdiagnostics, Json.itemValues_eq_map, List.map_map]
  exact mapM_map_eq_some (diagnostic?_valueOf r.path) r.diagnostics

theorem results?_document (report : Report) :
    results? (Json.valueOf (document (.all report))) =
      some (report.results.map LintResult.entries) := by
  have hresults : (Json.valueOf (document (.all report))).field? "results" =
      some (.list (Json.itemValues
        (report.results.map fun r => .record (resultFields r)))) := rfl
  unfold results?
  rw [hresults, Json.itemValues_eq_map, List.map_map]
  exact mapM_map_eq_some result?_resultFields report.results

/-- What the summary of a report says of a counter. -/
def counter? (v : Json.Value) (c : Counter) : Option Int := do
  let keys : List String :=
    match c with
    | .files => ["total_files_scanned"]
    | .diagnostics => ["total_diagnostics"]
    | .clean => ["clean_files"]
    | .fatal => ["diagnostics_by_severity", "fatal"]
    | .error => ["diagnostics_by_severity", "error"]
    | .warning => ["diagnostics_by_severity", "warning"]
    | .info => ["diagnostics_by_severity", "info"]
  (← v.at? ("summary" :: keys)).int?

/-- What counting the entries of some results comes to. -/
def recount (results : List (List ReportEntry)) : Counter → Nat
  | .files => results.length
  | .diagnostics => results.flatten.length
  | .clean => results.countP (·.isEmpty)
  | .fatal => results.flatten.countP (·.severity = Severity.fatal.name)
  | .error => results.flatten.countP (·.severity = Severity.error.name)
  | .warning => results.flatten.countP (·.severity = Severity.warning.name)
  | .info => results.flatten.countP (·.severity = Severity.info.name)

theorem counter?_document (report : Report) (c : Counter) :
    counter? (Json.valueOf (document (.all report))) c = some (report.counter c : Int) := by
  cases c <;> exact Json.int?_valueOf _

/-- Severities are told apart by their names. -/
theorem countP_severity (s : Severity) (results : List LintResult) :
    (results.map LintResult.entries).flatten.countP (·.severity = s.name) =
      (results.flatMap (·.diagnostics)).countP (·.severity = s) := by
  have hname : ∀ s t : Severity, s.name = t.name ↔ s = t := by
    intro s t
    cases s <;> cases t <;> decide
  rw [List.countP_flatten, List.map_map, List.countP_flatMap]
  refine congrArg List.sum (List.map_congr_left fun r _ => ?_)
  simp [LintResult.entries, List.countP_map, Function.comp_def, ReportEntry.of, hname]

/-- A report's counters are what counting its entries once more comes to. -/
theorem recount_entries (timestamp : String) (results : List LintResult) (c : Counter) :
    recount (results.map LintResult.entries) c = (Report.ofResults timestamp results).counter c := by
  have hcounts := Report.ofResults_recounts timestamp results
  have hresults := Report.ofResults_results timestamp results
  cases c with
  | files => rw [Report.counter, hcounts.files, hresults, recount, List.length_map]
  | diagnostics =>
    rw [Report.counter, hcounts.diagnostics, hresults, recount]
    simp [LintResult.entries, Function.comp_def]
  | clean =>
    rw [Report.counter, hcounts.clean, hresults, recount, List.countP_map]
    refine List.countP_congr fun r _ => ?_
    simp [LintResult.entries, LintResult.isClean]
  | fatal => rw [Report.counter, hcounts.fatal, hresults, recount, countP_severity]
  | error => rw [Report.counter, hcounts.error, hresults, recount, countP_severity]
  | warning => rw [Report.counter, hcounts.warning, hresults, recount, countP_severity]
  | info => rw [Report.counter, hcounts.info, hresults, recount, countP_severity]

end JsonReport

namespace SarifReport

/-- What the value of a result says of its diagnostic. -/
def result? (v : Json.Value) : Option ReportEntry := do
  let [location] ← (← v.field? "locations").items? | none
  let place ← location.field? "physicalLocation"
  return {
    path := ← (← place.at? ["artifactLocation", "uri"]).text?
    position := ← (← place.at? ["region", "byteOffset"]).int?
    offset := ← (← v.at? ["properties", "offsetHex"]).text?
    message := ← (← v.at? ["message", "text"]).text?
    ruleId := ← (← v.field? "ruleId").text?
    severity := ← (← v.at? ["properties", "severity"]).text?
    fatal := ← (← v.at? ["properties", "fatal"]).bool? }

/-- The value of the one run that a report is about. -/
def run? (v : Json.Value) : Option Json.Value := do
  let [run] ← (← v.field? "runs").items? | none
  return run

/-- What a report says of its diagnostics. -/
def entries? (v : Json.Value) : Option (List ReportEntry) := do
  (← (← (← run? v).field? "results").items?).mapM result?

/-- The id of the rule that a description is about. -/
def ruleId? (v : Json.Value) : Option String := do (← v.field? "id").text?

/-- The ids of the rules that a report describes. -/
def ruleIds? (v : Json.Value) : Option (List String) := do
  (← (← (← run? v).at? ["tool", "driver", "rules"]).items?).mapM ruleId?

theorem result?_result (path : String) (d : Diagnostic) :
    result? (Json.valueOf (result path d)) = some (.of path d) := by
  obtain ⟨location, place, hlocations, hplace, huri, hposition⟩ : ∃ location place : Json.Value,
      (Json.valueOf (result path d)).field? "locations" = some (.list [location]) ∧
        location.field? "physicalLocation" = some place ∧
        place.at? ["artifactLocation", "uri"] = some (.text path) ∧
        place.at? ["region", "byteOffset"] = some (Json.valueOf (.int d.position)) :=
    ⟨_, _, rfl, rfl, rfl, rfl⟩
  have hoffset : (Json.valueOf (result path d)).at? ["properties", "offsetHex"] =
      some (.text d.offsetText) := rfl
  have hmessage : (Json.valueOf (result path d)).at? ["message", "text"] =
      some (.text d.message) := rfl
  have hrule : (Json.valueOf (result path d)).field? "ruleId" = some (.text d.ruleId) := rfl
  have hseverity : (Json.valueOf (result path d)).at? ["properties", "severity"] =
      some (.text d.severity.name) := rfl
  have hfatal : (Json.valueOf (result path d)).at? ["properties", "fatal"] =
      some (Json.valueOf (.bool d.fatal)) := rfl
  unfold result?
  rw [hlocations, hoffset, hmessage, hrule, hseverity, hfatal]
  simp only [Option.bind_eq_bind, Option.bind_some, Json.Value.items?, Json.Value.text?, hplace,
    huri, hposition, Json.int?_valueOf, Json.bool?_valueOf]
  rfl

theorem entries?_document (tool : Tool) (subject : Subject) :
    entries? (Json.valueOf (document tool subject)) =
      some (subject.results.flatMap LintResult.entries) := by
  obtain ⟨run, hrun, hresults⟩ : ∃ run : Json.Value,
      run? (Json.valueOf (document tool subject)) = some run ∧
        run.field? "results" = some (.list (Json.itemValues
          (subject.results.flatMap fun r => r.diagnostics.map (result r.path)))) :=
    ⟨_, rfl, rfl⟩
  unfold entries?
  rw [hrun, Option.bind_eq_bind, Option.bind_some, hresults, Json.itemValues_eq_map]
  -- The results of all scripts are those of pairs of a path and a diagnostic.
  let located := subject.results.flatMap fun r => r.diagnostics.map fun d => (r.path, d)
  have hvalues : (subject.results.flatMap fun r => r.diagnostics.map (result r.path)).map
      Json.valueOf = located.map fun entry => Json.valueOf (result entry.1 entry.2) := by
    simp [located, List.map_flatMap, Function.comp_def]
  have hentries : subject.results.flatMap LintResult.entries =
      located.map fun entry => .of entry.1 entry.2 := by
    simp only [located, List.map_flatMap, List.map_map]
    rfl
  have hread (entry : String × Diagnostic) :
      result? (Json.valueOf (result entry.1 entry.2)) = some (.of entry.1 entry.2) :=
    result?_result entry.1 entry.2
  rw [hvalues, hentries]
  exact mapM_map_eq_some hread located

theorem ruleIds?_document (tool : Tool) (subject : Subject) :
    ruleIds? (Json.valueOf (document tool subject)) =
      some ((firstOfRules [] (subject.results.flatMap (·.diagnostics))).map (·.ruleId)) := by
  obtain ⟨run, hrun, hrules⟩ : ∃ run : Json.Value,
      run? (Json.valueOf (document tool subject)) = some run ∧
        run.at? ["tool", "driver", "rules"] = some (.list (Json.itemValues
          (ruleIndex (subject.results.flatMap (·.diagnostics))))) :=
    ⟨_, rfl, rfl⟩
  unfold ruleIds?
  rw [hrun, Option.bind_eq_bind, Option.bind_some, hrules, Json.itemValues_eq_map, ruleIndex,
    List.map_map]
  have hid (d : Diagnostic) : ruleId? (Json.valueOf (ruleEntry d)) = some d.ruleId := rfl
  exact mapM_map_eq_some hid _

/-! ## Rules in the order of first occurrence -/

section Rules

variable {seen : List String} {diagnostics : List Diagnostic} {id : String}

/-- Of the rules that occur, those are described that were not seen before. -/
theorem mem_firstOfRules :
    id ∈ (firstOfRules seen diagnostics).map (·.ruleId) ↔
      id ∈ diagnostics.map (·.ruleId) ∧ id ∉ seen := by
  induction diagnostics generalizing seen with
  | nil => simp [firstOfRules]
  | cons d rest ih =>
    rw [firstOfRules]
    split
    · rename_i hseen
      rw [ih, List.map_cons, List.mem_cons]
      constructor
      · exact fun h => ⟨.inr h.1, h.2⟩
      · rintro ⟨rfl | h, hnot⟩
        · exact absurd (List.contains_iff_mem.mp hseen) hnot
        · exact ⟨h, hnot⟩
    · rename_i hseen
      rw [List.contains_iff_mem] at hseen
      rw [List.map_cons, List.mem_cons, ih, List.map_cons, List.mem_cons, List.mem_cons]
      grind

/-- Rules are described in the order of first occurrence. -/
theorem pairwise_firstOfRules :
    ((firstOfRules seen diagnostics).map (·.ruleId)).Pairwise fun a b =>
      (diagnostics.map (·.ruleId)).idxOf a < (diagnostics.map (·.ruleId)).idxOf b := by
  induction diagnostics generalizing seen with
  | nil => exact .nil
  | cons d rest ih =>
    -- Behind the first diagnostic, a rule that is described is another one, so it is one further on.
    have hshift {seen : List String} (hseen : d.ruleId ∈ seen) :
        ((firstOfRules seen rest).map (·.ruleId)).Pairwise fun a b =>
          ((d :: rest).map (·.ruleId)).idxOf a < ((d :: rest).map (·.ruleId)).idxOf b := by
      refine ih.imp_of_mem fun {a b} ha hb hlt => ?_
      have hne {c : String} (hc : c ∈ (firstOfRules seen rest).map (·.ruleId)) : d.ruleId ≠ c := by
        rintro rfl
        exact (mem_firstOfRules.mp hc).2 hseen
      rw [List.map_cons, List.idxOf_cons_ne _ (hne ha), List.idxOf_cons_ne _ (hne hb)]
      exact Nat.succ_lt_succ hlt
    rw [firstOfRules]
    split
    · rename_i hseen
      exact hshift (List.contains_iff_mem.mp hseen)
    · rw [List.map_cons]
      refine .cons (fun b hb => ?_) (hshift List.mem_cons_self)
      have hne : d.ruleId ≠ b := by
        rintro rfl
        exact (mem_firstOfRules.mp hb).2 List.mem_cons_self
      simp only [List.idxOf_cons_self, List.idxOf_cons_ne _ hne, Nat.succ_pos]

end Rules

end SarifReport

/-- The JSON report, in either layout, and the SARIF report of the same results can be read back.
Both say the same of each diagnostic, in the order of the scripts and of discovery. The rules that
the SARIF report describes are those that occur in it, each once, in the order of first occurrence.
Each counter in the summary of the JSON report is what counting its entries once more comes to, and
unless some diagnostic has the severity of none, each of them is counted under one severity. -/
theorem Report.readings_agree (layout : Json.Layout) (tool : SarifReport.Tool) (timestamp : String)
    (results : List LintResult) :
    let subject : Subject := .all (ofResults timestamp results)
    ∃ json sarif entries,
      Json.read? (JsonReport.render layout subject) = some json ∧
      Json.read? (SarifReport.render tool subject) = some sarif ∧
      JsonReport.results? json = some entries ∧
      entries.flatten = results.flatMap LintResult.entries ∧
      SarifReport.entries? sarif = some entries.flatten ∧
      (∃ ids, SarifReport.ruleIds? sarif = some ids ∧ ids.Nodup ∧
        (∀ id, id ∈ ids ↔ id ∈ entries.flatten.map (·.ruleId)) ∧
        ids.Pairwise fun a b => (entries.flatten.map (·.ruleId)).idxOf a <
          (entries.flatten.map (·.ruleId)).idxOf b) ∧
      (∀ c, JsonReport.counter? json c = some (JsonReport.recount entries c : Int)) ∧
      ((∀ r ∈ results, ∀ d ∈ r.diagnostics, d.severity ≠ .clean) →
        JsonReport.recount entries .fatal + JsonReport.recount entries .error +
          JsonReport.recount entries .warning + JsonReport.recount entries .info =
            JsonReport.recount entries .diagnostics) := by
  intro subject
  have hresults : subject.results = results := ofResults_results timestamp results
  have hflatten : (results.map LintResult.entries).flatten = results.flatMap LintResult.entries :=
    List.flatMap_def.symm
  have hids : (results.flatMap LintResult.entries).map (·.ruleId) =
      (results.flatMap (·.diagnostics)).map (·.ruleId) := by
    simp [LintResult.entries, List.map_flatMap, Function.comp_def, ReportEntry.of]
  let diagnostics := results.flatMap (·.diagnostics)
  have hpairwise : ((SarifReport.firstOfRules [] diagnostics).map (·.ruleId)).Pairwise fun a b =>
      (diagnostics.map (·.ruleId)).idxOf a < (diagnostics.map (·.ruleId)).idxOf b :=
    SarifReport.pairwise_firstOfRules
  refine ⟨_, _, results.map LintResult.entries, Json.read?_render .., Json.read?_render .., ?_,
    hflatten, ?_, ⟨_, SarifReport.ruleIds?_document tool subject, ?_, ?_, ?_⟩, fun c => ?_, ?_⟩
  · rw [JsonReport.results?_document, ofResults_results]
  · rw [SarifReport.entries?_document, hresults, hflatten]
  · rw [hresults]
    refine hpairwise.imp ?_
    rintro a _ hlt rfl
    exact Nat.lt_irrefl _ hlt
  · intro id
    rw [hresults, hflatten, hids, SarifReport.mem_firstOfRules]
    simp
  · rw [hresults, hflatten, hids]
    exact hpairwise
  · rw [JsonReport.counter?_document, JsonReport.recount_entries timestamp]
  · intro hclean
    simp only [JsonReport.recount_entries timestamp]
    refine (ofResults_recounts timestamp results).sum_eq ?_
    rwa [ofResults_results]

/-- Two scripts with a rule outside the catalogue, whose message has to be escaped. -/
theorem Report.readings_agree_outside :
    let outside : Diagnostic :=
      { position := -1, message := "\x22\n😀", ruleId := "OUTSIDE", severity := .warning }
    let broken : LintResult :=
      { path := "a.qb", timestamp := "", diagnostics := [outside, Rule.fileNotFound.abort "" 0 []] }
    let other : LintResult := { path := "b.qb", timestamp := "", diagnostics := [outside] }
    let subject : Subject := .all (ofResults "" [broken, other])
    ∃ json entries, Json.read? (JsonReport.render .compact subject) = some json ∧
      JsonReport.results? json = some entries ∧
      entries.flatten = [broken, other].flatMap LintResult.entries ∧
      JsonReport.counter? json .warning = some 2 ∧
      JsonReport.recount entries .fatal + JsonReport.recount entries .error +
        JsonReport.recount entries .warning + JsonReport.recount entries .info = 3 := by
  intro outside broken other subject
  obtain ⟨json, -, entries, hjson, -, hresults, hflatten, -, -, hcounter, hsum⟩ :=
    readings_agree .compact {} "" [broken, other]
  refine ⟨json, entries, hjson, hresults, hflatten, ?_, (hsum ?_).trans ?_⟩
  · rw [hcounter, JsonReport.recount, hflatten]
    decide +kernel
  · decide +kernel
  · rw [JsonReport.recount, hflatten]
    decide +kernel

end QbLint
