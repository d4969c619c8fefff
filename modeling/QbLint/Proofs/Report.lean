import QbLint.Report.Basic

/-!
# What reports add up to

The counters of a report are the numbers of diagnostics of its results, by severity, and so the exit
status of a run can be told from the results one by one.

* `Report.tally`: the counter of a severity; `Report.ofResults_tally`: what it comes to;
* `LintResult.Passes`: results that do not fail a run;
* `Report.exitStatus_ofResults`: a run succeeds exactly if all of its results pass.
-/

namespace QbLint

/-- Nothing in the result fails a run, on which warnings may count too. -/
def LintResult.Passes (strict : Bool) (r : LintResult) : Prop :=
  ∀ d ∈ r.diagnostics, d.severity ≠ .fatal ∧ d.severity ≠ .error ∧
    (strict = true → d.severity ≠ .warning)

instance (strict : Bool) (r : LintResult) : Decidable (r.Passes strict) :=
  inferInstanceAs (Decidable (∀ d ∈ r.diagnostics, _))

namespace Report

variable {report : Report} {r : LintResult} {s : Severity}

/-- The counter of a severity; that of files without defects is not one of diagnostics. -/
def tally (report : Report) : Severity → Nat
  | .fatal => report.fatal
  | .error => report.error
  | .warning => report.warning
  | .info => report.info
  | .clean => 0

theorem count_tally (hs : s ≠ .clean) (report : Report) (d : Diagnostic) :
    (report.count d).tally s = report.tally s + if d.severity = s then 1 else 0 := by
  unfold count
  cases hd : d.severity <;> cases s <;> simp_all [tally]

theorem count_results (report : Report) (d : Diagnostic) :
    (report.count d).results = report.results := by
  unfold count
  split <;> rfl

/-- What counting one diagnostic leaves as it is, counting several does too. -/
theorem foldl_count_keep {α : Type} (get : Report → α)
    (hget : ∀ (report : Report) (d : Diagnostic), get (report.count d) = get report)
    (diagnostics : List Diagnostic) (report : Report) :
    get (diagnostics.foldl count report) = get report := by
  induction diagnostics generalizing report with
  | nil => rfl
  | cons d diagnostics ih => rw [List.foldl_cons, ih, hget]

theorem add_tally (hs : s ≠ .clean) (report : Report) (r : LintResult) :
    (report.add r).tally s = report.tally s + r.diagnostics.countP (·.severity = s) := by
  have hcount : ∀ (l : List Diagnostic) (report : Report),
      (l.foldl count report).tally s = report.tally s + l.countP (·.severity = s) := by
    intro l
    induction l with
    | nil => exact fun _ => rfl
    | cons d l ih =>
      intro report
      rw [List.foldl_cons, ih, count_tally hs, List.countP_cons, Nat.add_right_comm, Nat.add_assoc]
      simp only [decide_eq_true_eq]
  rw [add, hcount]
  cases s <;> rfl

theorem add_results (report : Report) (r : LintResult) :
    (report.add r).results = report.results ++ [r] := by
  rw [add, foldl_count_keep Report.results count_results]

theorem foldl_add_tally (hs : s ≠ .clean) (results : List LintResult) (report : Report) :
    (results.foldl add report).tally s =
      report.tally s + (results.flatMap (·.diagnostics)).countP (·.severity = s) := by
  induction results generalizing report with
  | nil => rfl
  | cons r results ih =>
    rw [List.foldl_cons, ih, add_tally hs, List.flatMap_cons, List.countP_append, Nat.add_assoc]

theorem foldl_add_results (results : List LintResult) (report : Report) :
    (results.foldl add report).results = report.results ++ results := by
  induction results generalizing report with
  | nil => exact (List.append_nil _).symm
  | cons r results ih => rw [List.foldl_cons, ih, add_results, List.append_assoc]; rfl

theorem ofResults_tally (hs : s ≠ .clean) (timestamp : String) (results : List LintResult) :
    (ofResults timestamp results).tally s =
      (results.flatMap (·.diagnostics)).countP (·.severity = s) := by
  rw [ofResults, foldl_add_tally hs]
  cases s <;> exact Nat.zero_add _

theorem ofResults_results (timestamp : String) (results : List LintResult) :
    (ofResults timestamp results).results = results := by
  rw [ofResults, foldl_add_results]
  rfl

theorem hasErrors_ofResults_iff {timestamp : String} {results : List LintResult} :
    (ofResults timestamp results).hasErrors = true ↔
      ∃ r ∈ results, ∃ d ∈ r.diagnostics, d.severity = .fatal ∨ d.severity = .error := by
  simp only [hasErrors, ofResults_results, LintResult.hasErrors, List.any_eq_true,
    decide_eq_true_eq]

theorem tally_ofResults_pos_iff (hs : s ≠ .clean) {timestamp : String}
    {results : List LintResult} :
    0 < (ofResults timestamp results).tally s ↔
      ∃ r ∈ results, ∃ d ∈ r.diagnostics, d.severity = s := by
  rw [ofResults_tally hs, List.countP_pos_iff]
  simp only [List.mem_flatMap, decide_eq_true_eq]
  constructor
  · rintro ⟨d, ⟨r, hr, hd⟩, hs⟩
    exact ⟨r, hr, d, hd, hs⟩
  · rintro ⟨r, hr, d, hd, hs⟩
    exact ⟨d, ⟨r, hr, hd⟩, hs⟩

/-- A run succeeds exactly if all of its results pass. -/
theorem exitStatus_ofResults (timestamp : String) (results : List LintResult) (strict : Bool) :
    (ofResults timestamp results).exitStatus strict =
      if ∀ r ∈ results, r.Passes strict then 0 else 1 := by
  unfold exitStatus
  split
  · rename_i herrors
    obtain ⟨r, hr, d, hd, hs⟩ := hasErrors_ofResults_iff.mp herrors
    refine (if_neg fun hpass => ?_).symm
    exact hs.elim (hpass r hr d hd).1 (hpass r hr d hd).2.1
  · rename_i herrors
    rw [hasErrors_ofResults_iff] at herrors
    have hwarning : 0 < (ofResults timestamp results).warning ↔
        ∃ r ∈ results, ∃ d ∈ r.diagnostics, d.severity = .warning :=
      tally_ofResults_pos_iff (s := .warning) (by decide)
    simp only [Bool.and_eq_true, decide_eq_true_eq, hwarning]
    split
    · rename_i hwarnings
      obtain ⟨hstrict, r, hr, d, hd, hs⟩ := hwarnings
      exact (if_neg fun hpass => (hpass r hr d hd).2.2 hstrict hs).symm
    · rename_i hwarnings
      refine (if_pos fun r hr d hd => ⟨?_, ?_, ?_⟩).symm
      · exact fun hs => herrors ⟨r, hr, d, hd, .inl hs⟩
      · exact fun hs => herrors ⟨r, hr, d, hd, .inr hs⟩
      · exact fun hstrict hs => hwarnings ⟨hstrict, r, hr, d, hd, hs⟩

end Report

end QbLint
