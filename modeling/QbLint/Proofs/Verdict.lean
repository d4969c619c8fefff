import QbLint.Cli.Run
import QbLint.Proofs.Lint

/-!
# The exit status of linting

A run of the command that lints scripts succeeds only if it found scripts, could load each of them,
scanned each to its end and found nothing in it that fails the run under the policy. A run has no
exit status at all if the scripts cannot be found, or if loading one of them leaves the command.

* `LintRequest.Uses`, `LintRequest.scripts`: the linter and the scripts that a request comes to;
* `Linter.FirstEscape`: the first of some scripts whose loading leaves the command;
* `Cli.answer_lint`, `Cli.answer_lintScripts`: the end of a run by what its parts come to;
* `Cli.lint_status`: the exit status, for every machine and every request.
-/

namespace QbLint

/-! ## Requests -/

theorem Config.readOnly_valuesOf (names : List String) : ReadOnly (valuesOf names) :=
  .bind (.mapM (fun name => .bind (.valueOf name) fun _ => .pure _) names) fun _ => .pure _

theorem Config.readOnly_read (given : Given) : ReadOnly (read given) :=
  .bind (readOnly_valuesOf _) fun _ => .pure _

/-- The linter that a request comes to with a configuration and a policy. -/
def LintRequest.linter (request : LintRequest) (config : Config) (policy : Policy) : Linter :=
  { policy :=
      if request.correctedOpcodes then
        { policy with options := { policy.options with correctedRanges := true } }
      else policy
    selection := Selection.of config.maxMegabytes config.suffixes }

/-- On the machine the request comes to the linter: there is a configuration, and the policy that it
leads to is accepted. -/
def LintRequest.Uses (request : LintRequest) (machine : Machine) (linter : Linter) : Prop :=
  ∃ config policy, machine.answer (Config.read { policy := request.policy }) = .ok config ∧
    machine.answer (Cli.loadPolicy config.policy) = .ok policy ∧
    linter = request.linter config policy

/-- The scripts that a request comes to, if they can be found. -/
def LintRequest.scripts (request : LintRequest) (machine : Machine) (linter : Linter) :
    Except FileError (List Path) :=
  machine.answer (linter.selection.discover request.recursive (request.paths.map Path.ofText))

/-- There are scripts, and each of them passes. -/
def LintRequest.AllPass (request : LintRequest) (machine : Machine) (linter : Linter) : Prop :=
  ∃ scripts, request.scripts machine linter = .ok scripts ∧ scripts ≠ [] ∧
    ∀ script ∈ scripts, linter.Passes machine request.failOnWarnings script

/-! ## Reports -/

namespace Linter

variable {linter : Linter} {machine : Machine} {scripts : List Path}

/-- The first of some scripts whose loading leaves the command leaves it with an error. -/
def FirstEscape (linter : Linter) (machine : Machine) (scripts : List Path) (e : Escape) : Prop :=
  ∃ before script after, scripts = before ++ script :: after ∧
    (∀ other ∈ before, ∀ e, ¬ linter.selection.Escapes machine other e) ∧
    linter.selection.Escapes machine script e

theorem answer_lintFiles_eq_error_iff (hp : linter.policy.Valid) {e : Escape} :
    machine.answer (linter.lintFiles scripts) = .error e ↔
      linter.FirstEscape machine scripts e := by
  have hmapM : machine.answer (linter.lintFiles scripts) = .error e ↔
      (scripts.mapM fun path => machine.answer (linter.lintFile path)) = .error e := by
    rw [answer_lintFiles]
    cases scripts.mapM fun path => machine.answer (linter.lintFile path) <;> simp [Except.map]
  have hresult (path : Path) : (∃ result, machine.answer (linter.lintFile path) = .ok result) ↔
      ∀ e, ¬ linter.selection.Escapes machine path e := by
    refine ⟨?_, exists_result hp⟩
    rintro ⟨result, hresult⟩ e he
    cases hresult.symm.trans ((answer_lintFile_eq_error_iff hp).mpr he)
  rw [hmapM, except_mapM_eq_error_iff]
  simp only [hresult, answer_lintFile_eq_error_iff hp]
  rfl

/-- Scripts have a report if loading none of them leaves the command. -/
theorem exists_report (hp : linter.policy.Valid)
    (h : ∀ script ∈ scripts, ∀ e, ¬ linter.selection.Escapes machine script e) :
    ∃ report, machine.answer (linter.lintFiles scripts) = .ok report := by
  cases hanswer : machine.answer (linter.lintFiles scripts) with
  | ok report => exact ⟨report, rfl⟩
  | error e =>
    obtain ⟨before, script, after, rfl, -, he⟩ := (answer_lintFiles_eq_error_iff hp).mp hanswer
    exact absurd he (h script (List.mem_append_right _ List.mem_cons_self) e)

/-- A report on scripts is that of a result for each of them. -/
theorem exists_results_of_lintFiles {report : Report}
    (h : machine.answer (linter.lintFiles scripts) = .ok report) :
    ∃ results, report = Report.ofResults machine.time results ∧
      scripts.Forall₂ (fun script result => machine.answer (linter.lintFile script) = .ok result)
        results := by
  rw [answer_lintFiles] at h
  cases hresults : scripts.mapM fun path => machine.answer (linter.lintFile path) with
  | error e =>
    rw [hresults] at h
    cases h
  | ok results =>
    rw [hresults] at h
    exact ⟨results, (Except.ok.inj h).symm, except_mapM_eq_ok_iff.mp hresults⟩

/-- Loading scripts that have a report did not leave the command. -/
theorem not_escapes_of_lintFiles (hp : linter.policy.Valid) {report : Report}
    (h : machine.answer (linter.lintFiles scripts) = .ok report) :
    ∀ script ∈ scripts, ∀ e, ¬ linter.selection.Escapes machine script e := by
  obtain ⟨results, -, hresults⟩ := exists_results_of_lintFiles h
  refine ((List.forall₂_and_left _ _).mp (hresults.imp fun script result hresult => ⟨?_, hresult⟩)).1
  intro e he
  cases hresult.symm.trans ((answer_lintFile_eq_error_iff hp).mpr he)

/-- The report on some scripts tells by its exit status whether all of them pass. -/
theorem exitStatus_of_lintFiles (hp : linter.policy.Valid) {report : Report}
    (h : machine.answer (linter.lintFiles scripts) = .ok report) (strict : Bool) :
    (report.exitStatus strict = 0 ∧ ∀ script ∈ scripts, linter.Passes machine strict script) ∨
      (report.exitStatus strict = 1 ∧
        ¬ ∀ script ∈ scripts, linter.Passes machine strict script) := by
  obtain ⟨results, rfl, hresults⟩ := exists_results_of_lintFiles h
  have hpasses : (∀ script ∈ scripts, linter.Passes machine strict script) ↔
      ∀ r ∈ results, r.Passes strict := by
    clear h
    induction hresults with
    | nil => simp
    | cons hresult _ ih =>
      rw [List.forall_mem_cons, List.forall_mem_cons, passes_iff hp hresult, ih]
  rw [hpasses, Report.exitStatus_ofResults]
  split
  · exact .inl ⟨rfl, ‹_›⟩
  · exact .inr ⟨rfl, ‹_›⟩

end Linter

namespace Cli

variable {machine : Machine} {request : LintRequest} {linter : Linter}

theorem readOnly_fail (s : String) : ReadOnly (fail s) :=
  .bind (.printError _) fun _ => .pure _

theorem readOnly_failPolicy (e : PolicyFailure) : ReadOnly (failPolicy e) := by
  unfold failPolicy
  split
  · exact readOnly_fail _
  · exact readOnly_fail _
  · exact .pure _
  · exact .pure _
  · exact readOnly_fail _

theorem readOnly_loadPolicy (value : Option String) : ReadOnly (loadPolicy value) := by
  unfold loadPolicy
  split
  · exact .bind (Policy.readOnly_readPreset .balanced) fun _ => .pure _
  · split
    · exact .bind (Policy.readOnly_readPreset _) fun _ => .bind (.log _) fun _ => .pure _
    · refine .bind (Policy.readOnly_ofFile _) fun p => ?_
      cases p with
      | error e => exact .pure _
      | ok p => exact .bind (.log _) fun _ => .pure _

/-- The policy that a command line leads to is a preset or comes from a file. -/
theorem isAccepted_of_loadPolicy {value : Option String} {p : Policy}
    (h : machine.answer (loadPolicy value) = .ok p) : p.IsAccepted := by
  unfold loadPolicy at h
  split at h
  · obtain rfl := Except.ok.inj h
    exact .preset .balanced
  · rename_i value _
    split at h
    · rename_i preset _
      obtain rfl := Except.ok.inj h
      exact .preset preset
    · rw [Machine.answer_bind] at h
      cases hfile : machine.answer (Policy.ofFile (Path.ofText value)) with
      | error e => rw [hfile] at h; cases h
      | ok q =>
        rw [hfile] at h
        obtain rfl := Except.ok.inj h
        exact Policy.isAccepted_of_ofFile hfile

theorem oblivious_deliver (output : Option String) (text : String) :
    Oblivious (deliver output text) := by
  unfold deliver
  split
  · exact (ReadOnly.bind (.print _) fun _ => .pure _).oblivious
  · exact Oblivious.map (f := id) (.write _ _) fun a _ => by cases a <;> rfl

/-- The end of a run with an exit status, by whether its report could be handed over. -/
def deliveryExit (status : Nat) : Except FileError Unit → Exit
  | .error e => .escaped (.file e)
  | .ok () => .status status

/-- What is left to do once scripts were linted. -/
def handOver (request : LintRequest) (format : OutputFormat) :
    Except Escape Report → StateM Machine Exit
  | .error e => return .escaped e
  | .ok report => do
    match ← deliver request.output (render format request.compact report) with
    | .error e => return .escaped (.file e)
    | .ok () => return .status (report.exitStatus request.failOnWarnings)

/-- What is left to do once scripts were searched for. -/
def lintFound (request : LintRequest) (format : OutputFormat) (linter : Linter) :
    Except FileError (List Path) → StateM Machine Exit
  | .error e => return .escaped (.file e)
  | .ok scripts =>
    if scripts.isEmpty then fail "No scripts found."
    else linter.lintFiles scripts >>= handOver request format

/-- The command as the linter of its request, its scripts, and what is left to do. -/
theorem lintScripts_eq (request : LintRequest) (config : Config) (format : OutputFormat)
    (policy : Policy) :
    lintScripts request config format policy = (do
      let linter := request.linter config policy
      let found ← linter.selection.discover request.recursive (request.paths.map Path.ofText)
      lintFound request format linter found) := by
  unfold lintScripts lintFound
  refine bind_congr fun found => ?_
  cases found with
  | error e => rfl
  | ok scripts =>
    dsimp only
    split
    · rfl
    · refine bind_congr fun reported => ?_
      cases reported <;> rfl

theorem answer_handOver (request : LintRequest) (format : OutputFormat) (report : Report)
    (machine : Machine) :
    machine.answer (handOver request format (.ok report)) =
      deliveryExit (report.exitStatus request.failOnWarnings)
        (machine.answer (deliver request.output (render format request.compact report))) := by
  rw [handOver, Machine.answer_bind]
  cases machine.answer (deliver request.output (render format request.compact report)) <;> rfl

theorem oblivious_handOver (request : LintRequest) (format : OutputFormat)
    (reported : Except Escape Report) : Oblivious (handOver request format reported) := by
  cases reported with
  | error e => exact (ReadOnly.pure _).oblivious
  | ok report =>
    intro machine
    rw [answer_handOver, answer_handOver, oblivious_deliver]

theorem oblivious_lintFound (request : LintRequest) (format : OutputFormat) (linter : Linter)
    (found : Except FileError (List Path)) : Oblivious (lintFound request format linter found) := by
  unfold lintFound
  split
  · exact (ReadOnly.pure _).oblivious
  · split
    · exact (readOnly_fail _).oblivious
    · exact .bind (linter.readOnly_lintFiles _) (oblivious_handOver request format)

theorem oblivious_lintScripts (request : LintRequest) (config : Config) (format : OutputFormat)
    (policy : Policy) : Oblivious (lintScripts request config format policy) := by
  rw [lintScripts_eq]
  exact .bind (Selection.readOnly_discover ..) (oblivious_lintFound request format _)

/-- Linting scripts ends by what finding them, linting them and handing over the report come to, all
of it on the machine as it was at first. -/
theorem answer_lintScripts {config : Config} {policy : Policy} (format : OutputFormat)
    (hlinter : linter = request.linter config policy) :
    machine.answer (lintScripts request config format policy) =
      match request.scripts machine linter with
      | .error e => .escaped (.file e)
      | .ok scripts =>
        if scripts = [] then .status 1
        else
          match machine.answer (linter.lintFiles scripts) with
          | .error e => .escaped e
          | .ok report =>
            deliveryExit (report.exitStatus request.failOnWarnings)
              (machine.answer (deliver request.output (render format request.compact report))) := by
  subst hlinter
  have hdiscover := (request.linter config policy).selection.readOnly_discover request.recursive
    (request.paths.map Path.ofText)
  rw [lintScripts_eq, Machine.answer_bind, ← LintRequest.scripts,
    hdiscover.answer_after (oblivious_lintFound request format _ _)]
  cases request.scripts machine (request.linter config policy) with
  | error e => rfl
  | ok scripts =>
    have hlint := (request.linter config policy).readOnly_lintFiles scripts
    simp only [lintFound, List.isEmpty_iff]
    split
    · rfl
    · rw [Machine.answer_bind, hlint.answer_after (oblivious_handOver request format _)]
      cases machine.answer ((request.linter config policy).lintFiles scripts) with
      | error e => rfl
      | ok report => exact answer_handOver request format report machine

theorem answer_lint (h : request.paths ≠ []) (machine : Machine) :
    machine.answer (lint request) =
      match machine.answer (Config.read { policy := request.policy }) with
      | .error _ => .status 1
      | .ok config =>
        match machine.answer (loadPolicy config.policy) with
        | .error e => machine.answer (failPolicy e)
        | .ok policy =>
          machine.answer (lintScripts request config
            ((request.format.bind OutputFormat.ofName?).getD config.format) policy) := by
  have hread := Config.readOnly_read { policy := request.policy }
  rw [lint, if_neg (by simpa using h), Machine.answer_bind]
  cases machine.answer (Config.read { policy := request.policy }) with
  | error e => exact hread.answer_after (readOnly_fail _).oblivious machine
  | ok config =>
    have hload := readOnly_loadPolicy config.policy
    refine (hread.answer_after (.bind hload fun loaded => ?_) machine).trans ?_
    · cases loaded with
      | error e => exact (readOnly_failPolicy e).oblivious
      | ok policy => exact oblivious_lintScripts _ _ _ _
    · dsimp only
      rw [Machine.answer_bind]
      cases machine.answer (loadPolicy config.policy) with
      | error e => exact hload.answer_after (readOnly_failPolicy e).oblivious machine
      | ok policy => exact hload.answer_after (oblivious_lintScripts _ _ _ _) machine

theorem valid_of_uses (h : request.Uses machine linter) : linter.policy.Valid := by
  obtain ⟨config, policy, -, hpolicy, rfl⟩ := h
  have hp := (isAccepted_of_loadPolicy hpolicy).valid
  unfold LintRequest.linter
  dsimp only
  split
  · exact hp.withCorrectedRanges true
  · exact hp

theorem uses_unique {other : Linter} (h : request.Uses machine linter)
    (h' : request.Uses machine other) : linter = other := by
  obtain ⟨config, policy, hconfig, hpolicy, rfl⟩ := h
  obtain ⟨config', policy', hconfig', hpolicy', rfl⟩ := h'
  obtain rfl := Except.ok.inj (hconfig.symm.trans hconfig')
  obtain rfl := Except.ok.inj (hpolicy.symm.trans hpolicy')
  rfl

theorem eq_of_deliveryExit_eq {status code : Nat} {delivered : Except FileError Unit}
    (h : deliveryExit status delivered = .status code) : code = status := by
  cases delivered with
  | error e => cases h
  | ok => exact (Exit.status.inj h).symm

/-- With an accepted policy a run has no exit status if the scripts cannot be found or loading one of
them leaves the command; and else it ends with the exit status that tells whether all scripts pass,
unless it comes to a report that cannot be handed over. -/
theorem answer_lint_of_uses (h : request.paths ≠ []) (hu : request.Uses machine linter) :
    match request.scripts machine linter with
    | .error e => machine.answer (lint request) = .escaped (.file e)
    | .ok scripts =>
      (∀ e, linter.FirstEscape machine scripts e →
        machine.answer (lint request) = .escaped e) ∧
      ((∀ script ∈ scripts, ∀ e, ¬ linter.selection.Escapes machine script e) →
        ∃ text status,
          (status = 0 ∧ request.AllPass machine linter ∨
            status = 1 ∧ ¬ request.AllPass machine linter) ∧
          machine.answer (lint request) =
            if scripts = [] then .status status
            else deliveryExit status (machine.answer (deliver request.output text))) := by
  have hp := valid_of_uses hu
  obtain ⟨config, policy, hconfig, hpolicy, hlinter⟩ := hu
  have hlint := answer_lint h machine
  simp only [hconfig, hpolicy] at hlint
  rw [answer_lintScripts _ hlinter] at hlint
  cases hscripts : request.scripts machine linter with
  | error e =>
    rw [hscripts] at hlint
    exact hlint
  | ok scripts =>
    rw [hscripts] at hlint
    dsimp only at hlint ⊢
    have hall : request.AllPass machine linter ↔
        scripts ≠ [] ∧ ∀ script ∈ scripts, linter.Passes machine request.failOnWarnings script := by
      simp [LintRequest.AllPass, hscripts]
    rw [hlint, hall]
    constructor
    · intro e he
      obtain ⟨before, script, after, heq, -, -⟩ := id he
      rw [if_neg (by simp [heq]), (Linter.answer_lintFiles_eq_error_iff hp).mpr he]
    · intro hload
      obtain ⟨report, hreport⟩ := Linter.exists_report hp hload
      rw [hreport]
      dsimp only
      by_cases hempty : scripts = []
      · exact ⟨"", 1, .inr ⟨rfl, fun h => h.1 hempty⟩, by rw [if_pos hempty, if_pos hempty]⟩
      · rw [if_neg hempty]
        rcases Linter.exitStatus_of_lintFiles hp hreport request.failOnWarnings with
          ⟨hstatus, hpass⟩ | ⟨hstatus, hfail⟩
        · exact ⟨_, 0, .inl ⟨rfl, hempty, hpass⟩, by rw [if_neg hempty, hstatus]⟩
        · exact ⟨_, 1, .inr ⟨rfl, fun h => hfail h.2⟩, by rw [if_neg hempty, hstatus]⟩

/-- Without a configuration or an accepted policy a run ends with no other exit status than one. -/
theorem eq_one_of_not_uses (h : request.paths ≠ []) (hu : ¬ ∃ linter, request.Uses machine linter)
    {code : Nat} (hexit : machine.answer (lint request) = .status code) : code = 1 := by
  rw [answer_lint h] at hexit
  split at hexit
  · exact (Exit.status.inj hexit).symm
  · rename_i config hconfig
    split at hexit
    · unfold failPolicy at hexit
      split at hexit
      · exact (Exit.status.inj hexit).symm
      · exact (Exit.status.inj hexit).symm
      · cases hexit
      · cases hexit
      · exact (Exit.status.inj hexit).symm
    · rename_i policy hpolicy
      exact absurd ⟨_, config, policy, hconfig, hpolicy, rfl⟩ hu

/-- A run that ends with an exit status found its scripts, and loading them did not leave the
command. -/
theorem exists_scripts_of_status (h : request.paths ≠ []) (hu : request.Uses machine linter)
    {code : Nat} (hexit : machine.answer (lint request) = .status code) :
    ∃ scripts, request.scripts machine linter = .ok scripts ∧
      ∀ script ∈ scripts, ∀ e, ¬ linter.selection.Escapes machine script e := by
  have hlint := answer_lint_of_uses h hu
  cases hscripts : request.scripts machine linter with
  | error e =>
    rw [hscripts] at hlint
    cases hexit.symm.trans hlint
  | ok scripts =>
    rw [hscripts] at hlint
    refine ⟨scripts, rfl, ?_⟩
    cases hreport : machine.answer (linter.lintFiles scripts) with
    | error e =>
      have hfirst := (Linter.answer_lintFiles_eq_error_iff (valid_of_uses hu)).mp hreport
      cases hexit.symm.trans (hlint.1 e hfirst)
    | ok report => exact Linter.not_escapes_of_lintFiles (valid_of_uses hu) hreport

/-- With an accepted policy an exit status is zero if all scripts pass, and else one. -/
theorem status_of_uses (h : request.paths ≠ []) (hu : request.Uses machine linter) {code : Nat}
    (hexit : machine.answer (lint request) = .status code) :
    code = 0 ∧ request.AllPass machine linter ∨ code = 1 ∧ ¬ request.AllPass machine linter := by
  obtain ⟨scripts, hscripts, hload⟩ := exists_scripts_of_status h hu hexit
  have hlint := answer_lint_of_uses h hu
  rw [hscripts] at hlint
  obtain ⟨text, status, hstatus, hlint⟩ := hlint.2 hload
  have hcode : code = status := by
    rw [hlint] at hexit
    split at hexit
    · exact (Exit.status.inj hexit).symm
    · exact eq_of_deliveryExit_eq hexit
  exact hcode ▸ hstatus

/-- A run that finds its scripts and loads them ends with an exit status if its report can be handed
over. -/
theorem exists_status (h : request.paths ≠ []) (hu : request.Uses machine linter)
    {scripts : List Path} (hscripts : request.scripts machine linter = .ok scripts)
    (hload : ∀ script ∈ scripts, ∀ e, ¬ linter.selection.Escapes machine script e)
    (hdeliver : ∀ text, machine.answer (deliver request.output text) = .ok ()) :
    ∃ code, machine.answer (lint request) = .status code := by
  have hlint := answer_lint_of_uses h hu
  rw [hscripts] at hlint
  obtain ⟨text, status, -, hstatus⟩ := hlint.2 hload
  refine ⟨status, hstatus.trans ?_⟩
  split
  · rfl
  · rw [hdeliver text]
    rfl

/-- A script that cannot be loaded or whose scan aborts does not pass. -/
theorem not_allPass (hu : request.Uses machine linter) {scripts : List Path} {script : Path}
    (hscripts : request.scripts machine linter = .ok scripts) (hs : script ∈ scripts)
    (hbad : (∀ data, machine.answer (linter.selection.load script) ≠ .ok (.ok data)) ∨
      ∃ data, machine.answer (linter.selection.load script) = .ok (.ok data) ∧
        (Scan.run linter.policy.options data).aborted = true) :
    ¬ request.AllPass machine linter := by
  rintro ⟨found, hfound, -, hpasses⟩
  obtain rfl := Except.ok.inj (hscripts.symm.trans hfound)
  obtain ⟨data, result, hwith⟩ := hpasses script hs
  rcases hbad with hload | ⟨data', hload, haborted⟩
  · exact hload data hwith.loaded
  · rw [Linter.not_aborted_of_passes (valid_of_uses hu) hload hwith.linted hwith.passes] at haborted
    cases haborted

/-- There is no silent pass. A run that ends with an exit status ends with zero if it found scripts
and each of them was loaded, was scanned to its last byte and has nothing left under the policy that
fails the run, and with one in every other case. With an accepted policy an error leaves the command
if the scripts cannot be found or loading one of them leaves it. If not, and if the report can be
handed over, the run ends with one of the two; and then a script that cannot be loaded, or whose scan
aborts, makes it one, whatever the policy disables or overrides. -/
theorem lint_status (request : LintRequest) (machine : Machine) (h : request.paths ≠ []) :
    (∀ code, machine.answer (lint request) = .status code →
      code = 0 ∧ (∃ linter, request.Uses machine linter ∧ request.AllPass machine linter) ∨
      code = 1 ∧ ¬ ∃ linter, request.Uses machine linter ∧ request.AllPass machine linter) ∧
    ∀ linter, request.Uses machine linter →
      match request.scripts machine linter with
      | .error e => machine.answer (lint request) = .escaped (.file e)
      | .ok scripts =>
        (∀ e, linter.FirstEscape machine scripts e →
          machine.answer (lint request) = .escaped e) ∧
        ((∀ script ∈ scripts, ∀ e, ¬ linter.selection.Escapes machine script e) →
          (∀ text, machine.answer (deliver request.output text) = .ok ()) →
            (request.AllPass machine linter → machine.answer (lint request) = .status 0) ∧
            (¬ request.AllPass machine linter → machine.answer (lint request) = .status 1) ∧
            ∀ script ∈ scripts,
              ((∀ data, machine.answer (linter.selection.load script) ≠ .ok (.ok data)) ∨
                ∃ data, machine.answer (linter.selection.load script) = .ok (.ok data) ∧
                  (Scan.run linter.policy.options data).aborted = true) →
              machine.answer (lint request) = .status 1) := by
  constructor
  · intro code hexit
    by_cases hu : ∃ linter, request.Uses machine linter
    · obtain ⟨linter, hu⟩ := hu
      rcases status_of_uses h hu hexit with ⟨rfl, hpass⟩ | ⟨rfl, hfail⟩
      · exact .inl ⟨rfl, linter, hu, hpass⟩
      · refine .inr ⟨rfl, ?_⟩
        rintro ⟨other, hother, hpass⟩
        obtain rfl := uses_unique hu hother
        exact hfail hpass
    · refine .inr ⟨eq_one_of_not_uses h hu hexit, ?_⟩
      rintro ⟨linter, hlinter, -⟩
      exact hu ⟨linter, hlinter⟩
  · intro linter hu
    have hlint := answer_lint_of_uses h hu
    cases hscripts : request.scripts machine linter with
    | error e =>
      rw [hscripts] at hlint
      exact hlint
    | ok scripts =>
      rw [hscripts] at hlint
      refine ⟨hlint.1, fun hescape hdeliver => ?_⟩
      obtain ⟨code, hexit⟩ := exists_status h hu hscripts hescape hdeliver
      have hstatus := status_of_uses h hu hexit
      have hfail : ¬ request.AllPass machine linter →
          machine.answer (lint request) = .status 1 := by
        intro hfail
        rcases hstatus with ⟨-, hpass⟩ | ⟨rfl, -⟩
        · exact absurd hpass hfail
        · exact hexit
      refine ⟨fun hpass => ?_, hfail, fun script hs hbad => hfail (not_allPass hu hscripts hs hbad)⟩
      rcases hstatus with ⟨rfl, -⟩ | ⟨-, hnot⟩
      · exact hexit
      · exact absurd hpass hnot

/-- A struct without a header fails the run under the permissive preset too. -/
theorem lint_status_cutOff :
    Machine.answer { files := .folder [("a.qb", .file #[0x4A])] }
      (lint { paths := ["a.qb"], policy := some "permissive" }) = .status 1 := by
  have huses : LintRequest.Uses { paths := ["a.qb"], policy := some "permissive" }
      { files := .folder [("a.qb", .file #[0x4A])] } { policy := Preset.permissive.policy } :=
    ⟨{ policy := some "permissive" }, Preset.permissive.policy, rfl, rfl, rfl⟩
  have hlook (e : Escape) : ¬ Selection.Escapes {}
      { files := .folder [("a.qb", .file #[0x4A])] } (Path.ofText "a.qb") e := by
    rintro (h | ⟨h, hlarge, -⟩)
    · cases h
    · obtain rfl := Entry.file.inj (Option.some.inj (Except.ok.inj h))
      exact absurd hlarge (by decide)
  have hrun := (lint_status _ _ (by decide)).2 _ huses
  refine ((hrun.2 ?_ fun _ => rfl).2.2 (Path.ofText "a.qb") ?_ (.inr ⟨#[0x4A], rfl, ?_⟩))
  · exact List.forall_mem_singleton.mpr hlook
  · exact List.mem_singleton_self _
  · decide +kernel

/-- The folder of a script may not be searched. -/
def closedFolder : Machine where
  files := .folder [("d", .folder [("a.qb", .file #[0x01])])]
  refuses _ path := if path = "d/a.qb" then some (.system .permissionDenied path) else none

/-- A script that cannot be loaded does not always give the exit status one: the error about a folder
that may not be searched leaves the command. -/
theorem not_forall_status_of_not_loaded :
    ¬ ∀ (request : LintRequest) (machine : Machine) (linter : Linter), request.Uses machine linter →
      request.recursive = false → ∀ path ∈ request.paths,
      (∀ data, machine.answer (linter.selection.load (Path.ofText path)) ≠ .ok (.ok data)) →
      machine.answer (lint request) = .status 1 := by
  intro h
  have huses : LintRequest.Uses { paths := ["d/a.qb"] } closedFolder
      { policy := Preset.balanced.policy } :=
    ⟨{}, Preset.balanced.policy, rfl, rfl, rfl⟩
  have hload (data : Bytes) :
      closedFolder.answer (Selection.load {} (Path.ofText "d/a.qb")) ≠ .ok (.ok data) := by
    intro hload
    cases (Selection.answer_load_eq_ok_iff.mp hload).1
  have hescape : closedFolder.answer (lint { paths := ["d/a.qb"] }) =
      .escaped (.file (.system .permissionDenied "d/a.qb")) := by
    decide +kernel
  cases hescape.symm.trans (h _ _ _ huses rfl _ (List.mem_singleton_self _) hload)

end Cli

end QbLint
