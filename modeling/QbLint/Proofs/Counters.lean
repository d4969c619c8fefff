import Mathlib.Algebra.BigOperators.Ring.Finset
import QbLint.Proofs.Report

/-!
# The counters of a report

A report counts as results are added to it. Each result adds its own share to each counter, so the
counters can be told from the results, whatever their order, and add up over parts of a run.

* `Report.counter`, `LintResult.share`: a counter, and what one result adds to it;
* `Report.add_counter`, `Report.ofResults_counter`: the counters after one result and after several;
* `Report.Recounts`: a report whose counters are what its results come to;
* `Report.ofResults_counts`: the counters, the failures and the exit status of a run.
-/

namespace QbLint

/-- What a report counts: results, their diagnostics, results without any, and diagnostics of each
severity. -/
inductive Counter
  | files | diagnostics | clean | fatal | error | warning | info
  deriving DecidableEq

/-- What a result adds to a counter. -/
def LintResult.share (r : LintResult) : Counter → Nat
  | .files => 1
  | .diagnostics => r.diagnostics.length
  | .clean => if r.isClean then 1 else 0
  | .fatal => (r.ofSeverity .fatal).length
  | .error => (r.ofSeverity .error).length
  | .warning => (r.ofSeverity .warning).length
  | .info => (r.ofSeverity .info).length

/-- Of diagnostics that all have the severity of a defect, each is counted once. -/
theorem length_eq_sum_countP {diagnostics : List Diagnostic}
    (h : ∀ d ∈ diagnostics, d.severity ≠ .clean) :
    diagnostics.countP (·.severity = .fatal) + diagnostics.countP (·.severity = .error) +
        diagnostics.countP (·.severity = .warning) + diagnostics.countP (·.severity = .info) =
      diagnostics.length := by
  induction diagnostics with
  | nil => rfl
  | cons d diagnostics ih =>
    rw [List.forall_mem_cons] at h
    have hrest := ih h.2
    have hd := h.1
    simp only [List.countP_cons, List.length_cons, decide_eq_true_eq]
    cases hs : d.severity with
    | clean => exact absurd hs hd
    | fatal | error | warning | info =>
      simp only [reduceCtorEq, ↓reduceIte]
      omega

namespace Report

variable {report : Report} {results other : List LintResult} {timestamp : String}

/-- The value of a counter. -/
def counter (report : Report) : Counter → Nat
  | .files => report.files
  | .diagnostics => report.diagnostics
  | .clean => report.clean
  | .fatal => report.fatal
  | .error => report.error
  | .warning => report.warning
  | .info => report.info

/-! ## One result after the other -/

theorem count_files (report : Report) (d : Diagnostic) : (report.count d).files = report.files := by
  unfold count
  split <;> rfl

theorem count_diagnostics (report : Report) (d : Diagnostic) :
    (report.count d).diagnostics = report.diagnostics := by
  unfold count
  split <;> rfl

theorem count_clean (report : Report) (d : Diagnostic) : (report.count d).clean = report.clean := by
  unfold count
  split <;> rfl

/-- Each result adds its share to each counter. -/
theorem add_counter (report : Report) (r : LintResult) (c : Counter) :
    (report.add r).counter c = report.counter c + r.share c := by
  have hseverity : ∀ s, s ≠ .clean →
      (report.add r).tally s = report.tally s + (r.ofSeverity s).length := by
    intro s hs
    rw [add_tally hs, LintResult.ofSeverity, List.countP_eq_length_filter]
  cases c with
  | files =>
    show (report.add r).files = report.files + 1
    rw [add, foldl_count_keep Report.files count_files]
  | diagnostics =>
    show (report.add r).diagnostics = report.diagnostics + r.diagnostics.length
    rw [add, foldl_count_keep Report.diagnostics count_diagnostics]
  | clean =>
    show (report.add r).clean = report.clean + if r.isClean then 1 else 0
    rw [add, foldl_count_keep Report.clean count_clean]
    dsimp only
    split <;> rfl
  | fatal => exact hseverity .fatal (by decide)
  | error => exact hseverity .error (by decide)
  | warning => exact hseverity .warning (by decide)
  | info => exact hseverity .info (by decide)

theorem foldl_add_counter (results : List LintResult) (report : Report) (c : Counter) :
    (results.foldl add report).counter c = report.counter c + (results.map (·.share c)).sum := by
  induction results generalizing report with
  | nil => rfl
  | cons r results ih =>
    rw [List.foldl_cons, ih, add_counter, List.map_cons, List.sum_cons, Nat.add_assoc]

/-- A counter is the sum of the shares of all results. -/
theorem ofResults_counter (timestamp : String) (results : List LintResult) (c : Counter) :
    (ofResults timestamp results).counter c = (results.map (·.share c)).sum := by
  rw [ofResults, foldl_add_counter]
  cases c <;> exact Nat.zero_add _

theorem ofResults_counter_append (timestamp : String) (front back : List LintResult) (c : Counter) :
    (ofResults timestamp (front ++ back)).counter c =
      (ofResults timestamp front).counter c + (ofResults timestamp back).counter c := by
  simp only [ofResults_counter, List.map_append, List.sum_append]

theorem ofResults_counter_perm (h : other.Perm results) (timestamp timestamp' : String)
    (c : Counter) :
    (ofResults timestamp' other).counter c = (ofResults timestamp results).counter c := by
  rw [ofResults_counter, ofResults_counter]
  exact (h.map _).sum_nat

/-! ## Counting once more -/

/-- The counters of the report are what counting its results once more comes to. -/
structure Recounts (report : Report) : Prop where
  files : report.files = report.results.length
  diagnostics : report.diagnostics = (report.results.flatMap (·.diagnostics)).length
  clean : report.clean = report.results.countP (·.isClean)
  fatal : report.fatal = (report.results.flatMap (·.diagnostics)).countP (·.severity = .fatal)
  error : report.error = (report.results.flatMap (·.diagnostics)).countP (·.severity = .error)
  warning : report.warning = (report.results.flatMap (·.diagnostics)).countP (·.severity = .warning)
  info : report.info = (report.results.flatMap (·.diagnostics)).countP (·.severity = .info)

theorem sum_share_files (results : List LintResult) :
    (results.map (·.share .files)).sum = results.length := by
  induction results with
  | nil => rfl
  | cons r results ih =>
    rw [List.map_cons, List.sum_cons, ih, List.length_cons, Nat.add_comm]
    rfl

theorem sum_share_diagnostics (results : List LintResult) :
    (results.map (·.share .diagnostics)).sum = (results.flatMap (·.diagnostics)).length := by
  rw [List.length_flatMap]
  rfl

theorem sum_share_clean (results : List LintResult) :
    (results.map (·.share .clean)).sum = results.countP (·.isClean) := by
  induction results with
  | nil => rfl
  | cons r results ih =>
    rw [List.map_cons, List.sum_cons, ih, List.countP_cons, Nat.add_comm]
    rfl

theorem ofResults_recounts (timestamp : String) (results : List LintResult) :
    (ofResults timestamp results).Recounts := by
  have hcounter := ofResults_counter timestamp results
  constructor <;> rw [ofResults_results]
  case files => exact (hcounter .files).trans (sum_share_files results)
  case diagnostics => exact (hcounter .diagnostics).trans (sum_share_diagnostics results)
  case clean => exact (hcounter .clean).trans (sum_share_clean results)
  case fatal => exact ofResults_tally (s := .fatal) (by decide) timestamp results
  case error => exact ofResults_tally (s := .error) (by decide) timestamp results
  case warning => exact ofResults_tally (s := .warning) (by decide) timestamp results
  case info => exact ofResults_tally (s := .info) (by decide) timestamp results

/-- Of diagnostics that all have the severity of a defect, each is counted under one severity. -/
theorem Recounts.sum_eq (h : report.Recounts)
    (hclean : ∀ r ∈ report.results, ∀ d ∈ r.diagnostics, d.severity ≠ .clean) :
    report.counter .fatal + report.counter .error + report.counter .warning +
      report.counter .info = report.counter .diagnostics := by
  rw [counter, counter, counter, counter, counter, h.fatal, h.error, h.warning, h.info,
    h.diagnostics]
  refine length_eq_sum_countP fun d hd => ?_
  obtain ⟨r, hr, hd⟩ := List.mem_flatMap.mp hd
  exact hclean r hr d hd

/-- A run fails exactly if a fatal diagnostic or an error was counted. -/
theorem hasErrors_ofResults_iff_pos :
    (ofResults timestamp results).hasErrors = true ↔
      0 < (ofResults timestamp results).fatal + (ofResults timestamp results).error := by
  have hfatal : 0 < (ofResults timestamp results).fatal ↔
      ∃ r ∈ results, ∃ d ∈ r.diagnostics, d.severity = .fatal :=
    tally_ofResults_pos_iff (s := .fatal) (by decide)
  have herror : 0 < (ofResults timestamp results).error ↔
      ∃ r ∈ results, ∃ d ∈ r.diagnostics, d.severity = .error :=
    tally_ofResults_pos_iff (s := .error) (by decide)
  rw [hasErrors_ofResults_iff, Nat.add_pos_iff_pos_or_pos, hfatal, herror]
  simp only [and_or_left, exists_or]

theorem hasErrors_iff_failed (report : Report) :
    report.hasErrors = true ↔ report.failed ≠ [] := by
  rw [hasErrors, List.any_eq_true, failed, ne_eq, List.filter_eq_nil_iff]
  simp

/-- The counters of a run are those of its results, and what else a report says fits them: each
diagnostic is counted under one severity, the run fails exactly if something fatal or an error was
counted, which is when some result has failed, and each result is clean or has diagnostics. The
counters of two runs add up to those of both together, and neither they nor the exit status depend
on the order of the results. -/
theorem ofResults_counts (timestamp : String) (results : List LintResult) :
    let report := ofResults timestamp results
    report.results = results ∧ report.Recounts ∧
    ((∀ r ∈ results, ∀ d ∈ r.diagnostics, d.severity ≠ .clean) →
      report.fatal + report.error + report.warning + report.info = report.diagnostics) ∧
    (report.hasErrors = true ↔ 0 < report.fatal + report.error) ∧
    (report.hasErrors = true ↔ report.failed ≠ []) ∧
    report.clean + results.countP (fun r => r.diagnostics ≠ []) = report.files ∧
    (∀ more c, (ofResults timestamp (results ++ more)).counter c =
      report.counter c + (ofResults timestamp more).counter c) ∧
    ∀ (timestamp' : String) (other : List LintResult), other.Perm results →
      (∀ c, (ofResults timestamp' other).counter c = report.counter c) ∧
      (ofResults timestamp' other).hasErrors = report.hasErrors ∧
      ∀ strict, (ofResults timestamp' other).exitStatus strict = report.exitStatus strict := by
  intro report
  have hresults : report.results = results := ofResults_results timestamp results
  have hcount : report.Recounts := ofResults_recounts timestamp results
  refine ⟨hresults, hcount, fun hclean => ?_, hasErrors_ofResults_iff_pos,
    hasErrors_iff_failed report, ?_,
    fun more c => ofResults_counter_append timestamp results more c,
    fun timestamp' other hperm => ⟨ofResults_counter_perm hperm timestamp timestamp', ?_, ?_⟩⟩
  · rw [hcount.fatal, hcount.error, hcount.warning, hcount.info, hcount.diagnostics, hresults]
    refine length_eq_sum_countP fun d hd => ?_
    obtain ⟨r, hr, hd⟩ := List.mem_flatMap.mp hd
    exact hclean r hr d hd
  · have hnot : ∀ r : LintResult,
        decide (r.diagnostics ≠ []) = decide ¬ r.isClean = true := fun r => by
      cases h : r.diagnostics <;> simp [LintResult.isClean, h]
    rw [hcount.clean, hcount.files, hresults]
    simp only [hnot]
    exact (List.length_eq_countP_add_countP fun r : LintResult => r.isClean).symm
  · rw [Bool.eq_iff_iff, hasErrors_ofResults_iff, hasErrors_ofResults_iff]
    simp only [hperm.mem_iff]
  · intro strict
    rw [exitStatus_ofResults, exitStatus_ofResults]
    simp only [hperm.mem_iff]

/-- A script with a warning behind a fatal defect, and a clean one. -/
theorem ofResults_counts_mixed :
    let warning : Diagnostic :=
      { position := 4, message := "", ruleId := "R", severity := .warning }
    let broken : LintResult :=
      { path := "a.qb", timestamp := "", diagnostics := [warning, Rule.fileNotFound.abort "" 0 []] }
    let sound : LintResult := { path := "b.qb", timestamp := "" }
    let report := ofResults "" [broken, sound]
    report.fatal + report.error + report.warning + report.info = report.diagnostics ∧
      report.diagnostics = 2 ∧ (ofResults "" [sound, broken]).exitStatus false = 1 := by
  intro warning broken sound report
  obtain ⟨-, hcount, hsum, -, -, -, -, hperm⟩ := ofResults_counts "" [broken, sound]
  refine ⟨hsum ?_, hcount.diagnostics, ?_⟩
  · decide +kernel
  · rw [(hperm "" [sound, broken] (.swap ..)).2.2 false]
    decide +kernel

end Report

end QbLint
