import QbLint.Proofs.Severity

/-!
# What policies do to diagnostics

A policy treats each diagnostic on its own: it drops it, or keeps it with nothing but its severity
changed, and a diagnostic of a scan never becomes more severe.

* `Policy.treat`: what a policy makes of one diagnostic; `Policy.Valid.apply_eq_filterMap`: what it
  makes of several;
* `Policy.treat_treat`, `Policy.treat_of_disabling`: a policy on top of itself, and one that
  disables more rules;
* `Policy.Valid.rank_le_of_treat`: no diagnostic of a scan becomes more severe;
* `Policy.apply_weakens`: the laws of applying policies.
-/

namespace QbLint

/-- The place of a severity in the ranking, which lists the worst first. That of a file without
defects is not listed and comes last. -/
def Severity.rank (s : Severity) : Nat := ranking.idxOf s

theorem Severity.IsAssignable.error_rank_le {s : Severity} (h : s.IsAssignable) :
    Severity.error.rank ≤ s.rank := by
  obtain ⟨hfatal, hclean⟩ := h
  cases s with
  | fatal => exact absurd rfl hfatal
  | clean => exact absurd rfl hclean
  | error | warning | info => decide

/-- A severity that fails a run is not worse than one that does not. -/
theorem Severity.fails_of_rank_le {s t : Severity} (h : s.rank ≤ t.rank)
    (ht : t = .fatal ∨ t = .error) : s = .fatal ∨ s = .error := by
  revert h
  rcases ht with rfl | rfl <;> cases s <;> decide

/-- Some scan comes to the diagnostic. -/
def Diagnostic.IsFound (d : Diagnostic) : Prop :=
  ∃ (options : ScanOptions) (data : Bytes), d ∈ (Scan.run options data).diagnostics

theorem Diagnostic.IsFound.severity_eq {d : Diagnostic} (h : d.IsFound) (hf : d.fatal = false) :
    d.severity = .error := by
  obtain ⟨options, data, hd⟩ := h
  rcases Scan.isReport_or_stop hd with hreport | ⟨last, -, abort, -, rfl⟩
  · exact hreport.severity_eq.1
  · rw [abort.diagnostic_fatal] at hf
    cases hf

namespace Policy

variable {p q : Policy} {d e : Diagnostic}

/-! ## One diagnostic -/

/-- What a policy makes of a diagnostic, unless it drops it. -/
def treat (p : Policy) (d : Diagnostic) : Option Diagnostic :=
  if d.fatal || !p.disabled.contains d.ruleId then some { d with severity := p.severityFor d }
  else none

theorem treat_eq_some_iff :
    p.treat d = some e ↔
      (d.fatal = true ∨ d.ruleId ∉ p.disabled) ∧ e = { d with severity := p.severityFor d } := by
  have hkept : (d.fatal || !p.disabled.contains d.ruleId) = true ↔
      d.fatal = true ∨ d.ruleId ∉ p.disabled := by simp
  rw [← hkept]
  unfold treat
  split
  · rename_i h
    exact ⟨fun he => ⟨h, (Option.some.inj he).symm⟩, fun he => congrArg some he.2.symm⟩
  · rename_i h
    exact ⟨nofun, fun he => absurd he.1 h⟩

/-- The severity under a policy does not depend on the one before, if the policy has one to give. -/
theorem severityFor_idem (p : Policy) (d : Diagnostic) :
    p.severityFor { d with severity := p.severityFor d } = p.severityFor d := by
  unfold severityFor
  dsimp only
  split
  · rfl
  · cases (p.override? d.ruleId).bind Severity.ofText? <;> rfl

/-- A policy leaves as it is what it has treated before. -/
theorem treat_treat (h : p.treat d = some e) : p.treat e = some e := by
  obtain ⟨hkept, rfl⟩ := treat_eq_some_iff.mp h
  rw [treat_eq_some_iff]
  refine ⟨hkept, ?_⟩
  rw [severityFor_idem]

theorem severityFor_congr (ho : ∀ ruleId, q.override? ruleId = p.override? ruleId)
    (d : Diagnostic) : q.severityFor d = p.severityFor d := by
  rw [severityFor, severityFor, ho]

theorem reassess_congr (ho : ∀ ruleId, q.override? ruleId = p.override? ruleId)
    (d : Diagnostic) : q.reassess d = p.reassess d := by
  rw [reassess, reassess, ho]

/-- To disable more rules is to drop their diagnostics afterwards. -/
theorem treat_of_disabling {ids : List String}
    (ho : ∀ ruleId, q.override? ruleId = p.override? ruleId)
    (hdisabled : ∀ ruleId, ruleId ∈ q.disabled ↔ ruleId ∈ p.disabled ∨ ruleId ∈ ids)
    (d : Diagnostic) :
    q.treat d = (p.treat d).filter fun e => e.fatal || !ids.contains e.ruleId := by
  have hq : q.disabled.contains d.ruleId =
      (p.disabled.contains d.ruleId || ids.contains d.ruleId) := by
    rw [Bool.eq_iff_iff]
    simpa using hdisabled d.ruleId
  rw [treat, treat, severityFor_congr ho, hq]
  cases d.fatal <;> cases p.disabled.contains d.ruleId <;> cases hids : ids.contains d.ruleId <;>
    simp_all [Option.filter]

/-- A diagnostic of a scan never becomes more severe. -/
theorem Valid.rank_le_of_treat (h : p.Valid) (hd : d.IsFound) (he : p.treat d = some e) :
    e = { d with severity := e.severity } ∧ d.severity.rank ≤ e.severity.rank := by
  obtain ⟨-, rfl⟩ := treat_eq_some_iff.mp he
  refine ⟨rfl, ?_⟩
  show d.severity.rank ≤ (p.severityFor d).rank
  rcases h.severityFor_eq_or d with hsame | ⟨hf, hassignable⟩
  · rw [hsame]
  · -- What a scan passes over is an error, and no policy can give more than that.
    rw [hd.severity_eq hf]
    exact hassignable.error_rank_le

/-! ## Several diagnostics -/

/-- What a policy makes of several diagnostics, if its overrides say the same as those of a policy
that keeps to what it must. -/
theorem Valid.apply_eq_filterMap (h : p.Valid)
    (ho : ∀ ruleId, q.override? ruleId = p.override? ruleId) (found : List Diagnostic) :
    q.apply found = .ok (found.filterMap q.treat) := by
  have heach : ∀ d, q.reassess d = .ok { d with severity := q.severityFor d } := fun d => by
    rw [reassess_congr ho, h.reassess_eq, severityFor_congr ho]
  rw [apply, except_mapM_eq_ok fun d _ => heach d]
  refine congrArg Except.ok ?_
  induction found with
  | nil => rfl
  | cons d found ih =>
    rw [List.filter_cons, List.filterMap_cons, treat]
    split
    · rw [List.map_cons, ih]
    · exact ih

/-- What is kept of a list was made of some of its members, in their order. -/
theorem exists_originals {α β : Type} (f : α → Option β) (l : List α) :
    ∃ originals, originals.Sublist l ∧
      List.Forall₂ (fun a b => a ∈ l ∧ f a = some b) originals (l.filterMap f) := by
  induction l with
  | nil => exact ⟨[], List.Sublist.refl [], .nil⟩
  | cons a l ih =>
    obtain ⟨originals, hsub, hall⟩ := ih
    have hrest : List.Forall₂ (fun a' b => a' ∈ a :: l ∧ f a' = some b) originals (l.filterMap f) :=
      hall.imp fun _ _ h => ⟨List.mem_cons_of_mem a h.1, h.2⟩
    cases ha : f a with
    | none =>
      rw [List.filterMap_cons_none ha]
      exact ⟨originals, hsub.cons a, hrest⟩
    | some b =>
      rw [List.filterMap_cons_some ha]
      exact ⟨a :: originals, hsub.cons_cons a, .cons ⟨List.mem_cons_self, ha⟩ hrest⟩

/-! ## Results -/

/-- The policy without what it says about single rules. -/
def withoutRules (p : Policy) : Policy := { p with overrides := [], disabled := [] }

theorem Valid.withoutRules (h : p.Valid) : p.withoutRules.Valid where
  disabled := nofun
  overrides := nofun
  padding := h.padding

theorem severityFor_withoutRules (p : Policy) (d : Diagnostic) :
    p.withoutRules.severityFor d = d.severity := by
  unfold severityFor
  split <;> rfl

theorem Valid.result_diagnostics (h : p.Valid) {path timestamp : String} {duration : Duration}
    {size : Nat} {outcome : Outcome} {result : LintResult}
    (hr : p.result path timestamp duration size outcome = .ok result) :
    result.diagnostics = outcome.diagnostics.filterMap p.treat := by
  rw [h.result_eq] at hr
  obtain rfl := Except.ok.inj hr
  exact Except.ok.inj ((h.apply_eq _).symm.trans (h.apply_eq_filterMap (fun _ => rfl) _))

/-- A result that has no errors without overrides and disabled rules has none with them. -/
theorem Valid.not_hasErrors (h : p.Valid) {data : Bytes} {plain result : LintResult}
    (hplain : plain.diagnostics =
      (Scan.run p.options data).diagnostics.filterMap p.withoutRules.treat)
    (hresult : result.diagnostics = (Scan.run p.options data).diagnostics.filterMap p.treat)
    (herrors : plain.hasErrors = false) : result.hasErrors = false := by
  rw [LintResult.hasErrors, List.any_eq_false] at herrors ⊢
  intro e he hfails
  rw [decide_eq_true_eq] at hfails
  rw [hresult, List.mem_filterMap] at he
  obtain ⟨d, hd, htreat⟩ := he
  have hsame : p.withoutRules.treat d = some d := by
    rw [treat_eq_some_iff]
    exact ⟨.inr List.not_mem_nil, by rw [severityFor_withoutRules]⟩
  have hmem : d ∈ plain.diagnostics := hplain ▸ List.mem_filterMap.mpr ⟨d, hd, hsame⟩
  have hle : d.severity.rank ≤ e.severity.rank := (h.rank_le_of_treat ⟨_, _, hd⟩ htreat).2
  exact herrors d hmem (decide_eq_true (Severity.fails_of_rank_le hle hfails))

/-- A policy that was read treats each diagnostic on its own, and treating it twice is treating it
once. To disable more rules is to drop their diagnostics afterwards, except for those that ended the
scan; and of the overrides only the first one for each rule counts. What is left of the diagnostics
of a scan are some of them, in their order and none more severe than it was, so a result that has no
errors without overrides and disabled rules has none with them. -/
theorem apply_weakens (h : p.IsAccepted) (found : List Diagnostic) :
    ∃ left, p.apply found = .ok left ∧
      (∀ more rest, p.apply more = .ok rest → p.apply (found ++ more) = .ok (left ++ rest)) ∧
      p.apply left = .ok left ∧
      (∀ (q : Policy) (ids : List String), q.overrides = p.overrides →
        (∀ ruleId, ruleId ∈ q.disabled ↔ ruleId ∈ p.disabled ∨ ruleId ∈ ids) →
        q.apply found = .ok (left.filter fun d => d.fatal || !ids.contains d.ruleId)) ∧
      (∀ q : Policy, q.disabled = p.disabled →
        (∀ ruleId, q.overrides.find? (·.ruleId == ruleId) =
          p.overrides.find? (·.ruleId == ruleId)) →
        q.apply found = .ok left) ∧
      ((∀ d ∈ found, d.IsFound) → ∃ originals, originals.Sublist found ∧
        List.Forall₂ (fun d e => e = { d with severity := e.severity } ∧
          d.severity.rank ≤ e.severity.rank) originals left) ∧
      ∀ (selection : Selection) (machine : Machine) (path : String) (data : Bytes),
        ∃ plain result,
          machine.answer (Linter.lintBytes ⟨p.withoutRules, selection⟩ path data) = .ok plain ∧
          machine.answer (Linter.lintBytes ⟨p, selection⟩ path data) = .ok result ∧
          (plain.hasErrors = false → result.hasErrors = false) := by
  have hp := h.valid
  have happly : ∀ found, p.apply found = .ok (found.filterMap p.treat) :=
    hp.apply_eq_filterMap fun _ => rfl
  refine ⟨_, happly found, fun more rest hrest => ?_, ?_, fun q ids ho hdisabled => ?_,
    fun q hdisabled hfirst => ?_, fun hfound => ?_, fun selection machine path data => ?_⟩
  · obtain rfl := Except.ok.inj ((happly more).symm.trans hrest)
    rw [happly, List.filterMap_append]
  · rw [happly, List.filterMap_filterMap]
    refine congrArg Except.ok (List.filterMap_congr fun d _ => ?_)
    cases hd : p.treat d with
    | none => rfl
    | some e => exact treat_treat hd
  · have hsame : ∀ ruleId, q.override? ruleId = p.override? ruleId := fun ruleId => by
      rw [override?, override?, ho]
    rw [hp.apply_eq_filterMap hsame, List.filter_filterMap]
    exact congrArg Except.ok
      (List.filterMap_congr fun d _ => treat_of_disabling hsame hdisabled d)
  · have hsame : ∀ ruleId, q.override? ruleId = p.override? ruleId := fun ruleId => by
      rw [override?, override?, hfirst]
    rw [hp.apply_eq_filterMap hsame]
    refine congrArg Except.ok (List.filterMap_congr fun d _ => ?_)
    rw [treat, treat, severityFor_congr hsame, hdisabled]
  · obtain ⟨originals, hsub, hall⟩ := exists_originals p.treat found
    exact ⟨originals, hsub, hall.imp fun d e hd => hp.rank_le_of_treat (hfound d hd.1) hd.2⟩
  · have hplain := hp.withoutRules.result_eq path machine.time .zero data.size
      (Scan.run p.options data)
    have hresult := hp.result_eq path machine.time .zero data.size
      (Scan.run p.options data)
    refine ⟨_, _, (Linter.answer_lintBytes ..).trans hplain,
      (Linter.answer_lintBytes ..).trans hresult, ?_⟩
    exact hp.not_hasErrors (hp.withoutRules.result_diagnostics hplain)
      (hp.result_diagnostics hresult)

/-- The permissive preset on a struct that is misaligned and a string that is cut off. -/
theorem apply_weakens_permissive :
    let p := Preset.permissive.policy
    let found := (Scan.run {} #[0x4A, 0x04, 0x00, 0x00, 0x00, 0x01, 0x00, 0x1B]).diagnostics
    let ids := [Rule.structMisaligned.id, Rule.truncatedScript.id]
    let later : Override := ⟨Rule.structMisaligned.id, "INFO", .text ""⟩
    ∃ left, p.apply found = .ok left ∧ left.map (·.severity) = [.warning, .fatal] ∧
      p.apply (found ++ left) = .ok (left ++ left) ∧
      Policy.apply { p with disabled := p.disabled ++ ids } found =
        .ok (left.filter fun d => d.fatal || !ids.contains d.ruleId) ∧
      Policy.apply { p with overrides := p.overrides ++ [later] } found = .ok left ∧
      ∃ originals, originals.Sublist found ∧
        List.Forall₂ (fun d e => e = { d with severity := e.severity } ∧
          d.severity.rank ≤ e.severity.rank) originals left := by
  intro p found ids later
  have hp : p.IsAccepted := .preset .permissive
  obtain ⟨left, hleft, happend, hagain, hdisable, hfirst, hweak, -⟩ := apply_weakens hp found
  refine ⟨left, hleft, ?_, happend left left hagain, hdisable _ ids rfl fun ruleId => ?_,
    hfirst _ rfl fun ruleId => ?_, hweak fun d hd => ⟨_, _, hd⟩⟩
  · obtain rfl := Except.ok.inj ((hp.valid.apply_eq found).symm.trans hleft)
    decide +kernel
  · exact List.mem_append
  · show List.find? _ (p.overrides ++ [later]) = List.find? _ p.overrides
    by_cases h : Rule.structMisaligned.id = ruleId
    · subst h
      rfl
    · simp [p, later, Preset.policy, h]

end Policy

end QbLint
