import QbLint.Lint.Run
import QbLint.Proofs.Outcome
import QbLint.Proofs.Policy

/-!
# Severities of results

A diagnostic has the severity `fatal` exactly if it ended the scan, and then it is the last one.
Scans come to such diagnostics, and policies leave them so; whatever is read off a result's
severities then fits what is read off its diagnostics.

* `Coherent`: diagnostics with such severities;
* `Scan.coherent`, `Coherent.reassess`: those of a scan, also under a policy;
* `LintResult.aborted_iff_maxSeverity`, `LintResult.isClean_iff_maxSeverity`: what the worst
  severity of a result says;
* `Linter.lintBytes_coherent`: the results of linting under any policy that was read.
-/

namespace QbLint

/-- Diagnostics have the severity `fatal` exactly if they ended the scan, only the last one did, and
all have the severity of a defect. -/
structure Coherent (diagnostics : List Diagnostic) : Prop where
  fatal_iff : ∀ d ∈ diagnostics, d.severity = .fatal ↔ d.fatal = true
  not_clean : ∀ d ∈ diagnostics, d.severity ≠ .clean
  last : ∀ d ∈ diagnostics, d.fatal = true → diagnostics.getLast? = some d

/-! ## Scans and policies -/

theorem Diagnostic.IsReport.severity_eq {d : Diagnostic} (h : d.IsReport) :
    d.severity = .error ∧ d.fatal = false := by
  obtain ⟨rule, message, position, hf, rfl⟩ := h
  refine ⟨?_, rfl⟩
  change rule.severity = _
  rw [Rule.severity, hf]
  rfl

theorem Abort.diagnostic_severity (abort : Abort) (start : Nat) :
    (abort.diagnostic start).severity = .fatal := by
  cases abort <;> rfl

/-- A scan goes on behind errors and ends with a fatal diagnostic if it does not come to the end. -/
theorem Scan.coherent (options : ScanOptions) (data : Bytes) :
    Coherent (run options data).diagnostics := by
  have hkind : ∀ d ∈ (run options data).diagnostics,
      d.severity = .error ∧ d.fatal = false ∨ d.severity = .fatal ∧ d.fatal = true := by
    intro d hd
    rcases isReport_or_stop hd with h | ⟨last, -, abort, -, rfl⟩
    · exact .inl h.severity_eq
    · exact .inr ⟨abort.diagnostic_severity _, abort.diagnostic_fatal _⟩
  refine ⟨fun d hd => ?_, fun d hd => ?_, fun d hd hf => ?_⟩
  · rcases hkind d hd with ⟨hs, hf⟩ | ⟨hs, hf⟩ <;> simp [hs, hf]
  · rcases hkind d hd with ⟨hs, -⟩ | ⟨hs, -⟩ <;> simp [hs]
  · obtain ⟨last, hl, abort, hn, rfl⟩ := exists_stop_of_fatal hd hf
    rw [run_of_stop hl hn, List.getLast?_concat]

/-- What a policy leaves of coherent diagnostics is coherent, since what ended the scan is left as
it is. -/
theorem Coherent.reassess {p : Policy} (hp : p.Valid) {diagnostics : List Diagnostic}
    (h : Coherent diagnostics) :
    Coherent ((diagnostics.filter fun d => d.fatal || !p.disabled.contains d.ruleId).map
      fun d => { d with severity := p.severityFor d }) := by
  refine ⟨?_, ?_, ?_⟩
  · simp only [List.forall_mem_map, List.mem_filter]
    rintro d ⟨hd, -⟩
    rcases hp.severityFor_eq_or d with hs | ⟨hf, hs⟩
    · rw [hs, h.fatal_iff d hd]
    · simp [hf, hs.1]
  · simp only [List.forall_mem_map, List.mem_filter]
    rintro d ⟨hd, -⟩
    rcases hp.severityFor_eq_or d with hs | ⟨-, hs⟩
    · rw [hs]
      exact h.not_clean d hd
    · exact hs.2
  · simp only [List.forall_mem_map, List.mem_filter]
    rintro d ⟨hd, -⟩ hf
    obtain ⟨before, hlast⟩ := List.getLast?_eq_some_iff.mp (h.last d hd hf)
    simp [hlast, hf]

/-- No policy makes a difference to whether a scan was ended by a defect. -/
theorem Policy.any_fatal_reassess (p : Policy) (diagnostics : List Diagnostic) :
    ((diagnostics.filter fun d => d.fatal || !p.disabled.contains d.ruleId).map
        fun d => { d with severity := p.severityFor d }).any (·.fatal) =
      diagnostics.any (·.fatal) := by
  have hkept : ∀ d : Diagnostic,
      ((d.fatal || !p.disabled.contains d.ruleId) && d.fatal) = d.fatal :=
    fun d => by cases d.fatal <;> simp
  simp only [List.any_map, List.any_filter, Function.comp_def, hkept]

/-! ## Results -/

/-- The first in the ranking of the severities that there are. -/
theorem Severity.find?_ranking (has : Severity → Bool) :
    (ranking.find? has).getD .clean =
      if has .fatal then .fatal else if has .error then .error
      else if has .warning then .warning else if has .info then .info else .clean := by
  unfold ranking
  cases hfatal : has .fatal <;> cases herror : has .error <;> cases hwarning : has .warning <;>
    cases hinfo : has .info <;> simp [hfatal, herror, hwarning, hinfo]

namespace LintResult

variable {r : LintResult}

theorem hasErrors_iff : r.hasErrors = true ↔
    (r.diagnostics.any fun d => d.severity = .fatal) = true ∨
      (r.diagnostics.any fun d => d.severity = .error) = true := by
  simp [hasErrors, and_or_left, exists_or]

theorem hasErrors_iff_maxSeverity :
    r.hasErrors = true ↔ r.maxSeverity = .fatal ∨ r.maxSeverity = .error := by
  rw [hasErrors_iff, maxSeverity, Severity.find?_ranking]
  repeat' split
  all_goals simp_all

theorem aborted_iff_getLast? (h : Coherent r.diagnostics) :
    r.aborted = true ↔ ∃ d, r.diagnostics.getLast? = some d ∧ d.fatal = true := by
  rw [aborted, List.any_eq_true]
  constructor
  · rintro ⟨d, hd, hf⟩
    exact ⟨d, h.last d hd hf, hf⟩
  · rintro ⟨d, hl, hf⟩
    exact ⟨d, List.mem_of_mem_getLast? hl, hf⟩

theorem aborted_iff_maxSeverity (h : Coherent r.diagnostics) :
    r.aborted = true ↔ r.maxSeverity = .fatal := by
  have hfatal : r.aborted = r.diagnostics.any fun d => d.severity = .fatal := by
    rw [aborted, Bool.eq_iff_iff, List.any_eq_true, List.any_eq_true]
    refine exists_congr fun d => and_congr_right fun hd => ?_
    rw [decide_eq_true_eq, h.fatal_iff d hd]
  rw [hfatal, maxSeverity, Severity.find?_ranking]
  repeat' split
  all_goals simp_all

theorem isClean_eq_false_of_aborted (h : r.aborted = true) : r.isClean = false := by
  obtain ⟨d, hd, -⟩ := List.any_eq_true.mp h
  exact List.isEmpty_eq_false_iff.mpr (List.ne_nil_of_mem hd)

theorem isClean_iff_maxSeverity (h : Coherent r.diagnostics) :
    r.isClean = true ↔ r.maxSeverity = .clean := by
  rw [isClean, List.isEmpty_iff]
  constructor
  · intro hnil
    rw [maxSeverity, Severity.find?_ranking, hnil]
    rfl
  · intro hmax
    refine List.eq_nil_iff_forall_not_mem.mpr fun d hd => h.not_clean d hd ?_
    have hsome : (r.diagnostics.any fun d' => d'.severity = d.severity) = true :=
      List.any_eq_true.mpr ⟨d, hd, decide_eq_true rfl⟩
    rw [maxSeverity, Severity.find?_ranking] at hmax
    -- No severity of the ranking is there, so that of `d` is the one that is not ranked.
    generalize d.severity = s at hsome ⊢
    split_ifs at hmax
    cases s <;> trivial

end LintResult

/-! ## Linting -/

/-- A policy that keeps to what it must has a result for whatever a scan finds. -/
theorem Policy.Valid.result_eq {p : Policy} (h : p.Valid) (path timestamp : String)
    (duration : Duration) (size : Nat) (outcome : Outcome) :
    p.result path timestamp duration size outcome = .ok
      { path
        diagnostics :=
          (outcome.diagnostics.filter fun d => d.fatal || !p.disabled.contains d.ruleId).map
            fun d => { d with severity := p.severityFor d }
        size
        scanned := outcome.bytesScanned
        duration
        timestamp
        policyName := p.name } := by
  rw [result, h.apply_eq]
  rfl

namespace Linter

theorem readOnly_lintBytes (linter : Linter) (path : String) (data : Bytes) :
    ReadOnly (linter.lintBytes path data) := by
  refine .bind .nanoseconds fun _ => .bind (.forM .log _) fun _ => .bind (.durationSince _)
    fun _ => .bind .now fun _ => ?_
  split
  · exact .bind (.log _) fun _ => .pure _
  · exact .pure _

/-- The line about a result that is told at last makes no difference to it. -/
theorem answer_logged (machine : Machine) (r : Except UnknownSeverity LintResult) :
    machine.answer (match r with
      | .ok result => do
        Host.log result.logLine
        return .ok result
      | .error e => return .error e) = r := by
  cases r <;> rfl

theorem answer_lintBytes (linter : Linter) (machine : Machine) (path : String) (data : Bytes) :
    machine.answer (linter.lintBytes path data) =
      linter.policy.result path machine.time .zero data.size
        (Scan.run linter.policy.options data) := by
  have hlog := ReadOnly.forM .log ((Scan.run linter.policy.options data).logLines path data)
  rw [← hlog.time machine]
  exact answer_logged _ _

/-- Under every policy that was read, linting comes to a result. The result has those diagnostics of
the scan that are fatal or whose rule is not disabled, with nothing but their severities changed;
and its severities say how the scan ended: the fatal ones are those that ended it, and the worst
severity tells whether the scan aborted, whether anything was found and whether the run fails. -/
theorem lintBytes_coherent (linter : Linter) (h : linter.policy.IsAccepted) (machine : Machine)
    (path : String) (data : Bytes) :
    ∃ result, machine.answer (linter.lintBytes path data) = .ok result ∧
      result.diagnostics =
        ((Scan.run linter.policy.options data).diagnostics.filter fun d =>
          d.fatal || !linter.policy.disabled.contains d.ruleId).map
            (fun d => { d with severity := linter.policy.severityFor d }) ∧
      (∀ d ∈ result.diagnostics, (d.severity = .fatal ↔ d.fatal = true) ∧ d.severity ≠ .clean) ∧
      (result.aborted = true ↔ result.maxSeverity = .fatal) ∧
      (result.aborted = true ↔ ∃ d, result.diagnostics.getLast? = some d ∧ d.fatal = true) ∧
      (result.isClean = true ↔ result.maxSeverity = .clean) ∧
      (result.hasErrors = true ↔ result.maxSeverity = .fatal ∨ result.maxSeverity = .error) ∧
      result.aborted = (Scan.run linter.policy.options data).aborted ∧
      (result.aborted = true → result.isClean = false) := by
  have hp := h.valid
  have hcoherent := (Scan.coherent linter.policy.options data).reassess hp
  rw [answer_lintBytes, hp.result_eq]
  refine ⟨_, rfl, rfl, fun d hd => ⟨hcoherent.fatal_iff d hd, hcoherent.not_clean d hd⟩,
    LintResult.aborted_iff_maxSeverity hcoherent, LintResult.aborted_iff_getLast? hcoherent,
    LintResult.isClean_iff_maxSeverity hcoherent, LintResult.hasErrors_iff_maxSeverity, ?_, ?_⟩
  · exact linter.policy.any_fatal_reassess _
  · exact LintResult.isClean_eq_false_of_aborted

/-- A struct that is misaligned is only warned of under the permissive preset. -/
theorem lintBytes_coherent_permissive :
    ∃ result, (default : Machine).answer (lintBytes { policy := Preset.permissive.policy } "a.qb"
        #[0x4A, 0x04, 0x00, 0x00, 0x00, 0x01, 0x00]) = .ok result ∧
      result.hasErrors = false ∧ result.maxSeverity = .warning := by
  obtain ⟨result, hr, hd, -⟩ := lintBytes_coherent { policy := Preset.permissive.policy }
    (.preset .permissive) default "a.qb" #[0x4A, 0x04, 0x00, 0x00, 0x00, 0x01, 0x00]
  refine ⟨result, hr, ?_, ?_⟩
  · rw [LintResult.hasErrors, hd]
    decide +kernel
  · rw [LintResult.maxSeverity, hd]
    decide +kernel

end Linter

end QbLint
