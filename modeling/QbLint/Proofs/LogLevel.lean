import QbLint.Formats.Standard
import QbLint.Proofs.Args
import QbLint.Proofs.Environment
import QbLint.Proofs.Files
import QbLint.Proofs.Verdict

/-!
# The level of the log

A run sets the level of its log once, before its command, and nothing that a command does changes
it. A level that the command line asks for is the one that is set, unless the environment file that
the command line names is at fault: then the level is that of warnings, whatever was asked for.

* `Cli.keeps_lint`: linting leaves the level as it is;
* `LintRequest.Configures`: a request behind whose environment file there is a configuration;
* `Cli.answer_logLevel`: the level that a run comes to;
* `Cli.run_logWeight`: the level behind a run that was asked for one.
-/

namespace QbLint

theorem Keeps.write_logWeight (target : String) (data : Bytes) :
    Keeps Machine.logWeight? (Host.write target data) := by
  intro machine
  cases h : machine.write target data with
  | error e => rw [Machine.after_write_of_error h]
  | ok written =>
    obtain ⟨-, -, _, -, -, rfl⟩ := Machine.of_write h
    rw [Machine.after_write h]

/-- The environment file that the request names is not there, or can be read and its variables be
set; and behind it there is a configuration. -/
def LintRequest.Configures (request : LintRequest) (machine : Machine) : Prop :=
  ∀ file, request.envFile = some file → file ≠ "" →
    machine.answer (Config.supplyFile (Path.ofText file)) = .ok () ∧
      ∃ config, Config.of (fun name =>
        (machine.after (Config.supplyFile (Path.ofText file))).environment.lookup name) {} =
          .ok config

/-- Reading the environment file that the request names comes to an error that a run does not
expect: it cannot be told what the file's path leads to, the file cannot be read, or its reader gave
up. -/
def LintRequest.EnvUnreadable (request : LintRequest) (machine : Machine) (cause : Escape) : Prop :=
  ∃ file e, request.envFile = some file ∧ file ≠ "" ∧
    machine.answer (Config.supplyFile (Path.ofText file)) = .error e ∧
    Escape.ofConfigFailure? e = some cause

section Requests

variable {request : LintRequest} {machine : Machine} {cause other : Escape}

theorem LintRequest.EnvUnreadable.not_configures (h : request.EnvUnreadable machine cause) :
    ¬ request.Configures machine := by
  obtain ⟨file, e, henv, hne, he, -⟩ := h
  intro hconf
  cases he.symm.trans (hconf file henv hne).1

theorem LintRequest.EnvUnreadable.unique (h : request.EnvUnreadable machine cause)
    (h' : request.EnvUnreadable machine other) : other = cause := by
  obtain ⟨file, e, henv, -, he, hcause⟩ := h
  obtain ⟨file', e', henv', -, he', hcause'⟩ := h'
  obtain rfl := Option.some.inj (henv.symm.trans henv')
  obtain rfl := Except.error.inj (he.symm.trans he')
  exact Option.some.inj (hcause'.symm.trans hcause)

end Requests

namespace Cli

variable {machine : Machine} {invocation : Invocation} {request : LintRequest} {words : List String}
  {level : String}

/-! ## Linting leaves the level as it is -/

theorem keeps_deliver (output : Option String) (text : String) :
    Keeps Machine.logWeight? (deliver output text) := by
  unfold deliver
  split
  · exact .bind (ReadOnly.print _).logWeight fun _ => .pure _
  · refine .bind (.write_logWeight _ _) fun written => ?_
    cases written with
    | error e => exact .pure _
    | ok => exact .bind (ReadOnly.print _).logWeight fun _ => .pure _

theorem keeps_lintScripts (request : LintRequest) (config : Config) (format : OutputFormat)
    (policy : Policy) : Keeps Machine.logWeight? (lintScripts request config format policy) := by
  rw [lintScripts_eq]
  refine .bind (Selection.readOnly_discover ..).logWeight fun found => ?_
  unfold lintFound
  split
  · exact .pure _
  · split
    · exact (readOnly_fail _).logWeight
    · refine .bind (Linter.readOnly_lintFiles ..).logWeight fun reported => ?_
      cases reported with
      | error e => exact .pure _
      | ok report =>
        refine .bind (keeps_deliver _ _) fun delivered => ?_
        cases delivered <;> exact .pure _

theorem keeps_lint (request : LintRequest) : Keeps Machine.logWeight? (lint request) := by
  unfold lint
  split
  · exact .bind (ReadOnly.print _).logWeight fun _ => .bind (ReadOnly.print _).logWeight fun _ =>
      .pure _
  · refine .bind (Config.readOnly_read _).logWeight fun config => ?_
    cases config with
    | error e => exact (readOnly_fail _).logWeight
    | ok config =>
      refine .bind (readOnly_loadPolicy _).logWeight fun policy => ?_
      cases policy with
      | error e => exact (readOnly_failPolicy e).logWeight
      | ok policy => exact keeps_lintScripts _ _ _ _

/-! ## Before the command -/

theorem answer_readEnvFile_of_none (hlint : invocation.command = some (.lint request))
    (h : request.envFile.filter (!·.isEmpty) = none) (machine : Machine) :
    machine.answer (readEnvFile invocation) = .ok () := by
  have hfile : envFile? invocation = none := by
    rw [envFile?, hlint]
    exact h
  rw [readEnvFile, hfile]
  rfl

theorem answer_readEnvFile_of_some (hlint : invocation.command = some (.lint request))
    {file : String} (h : request.envFile.filter (!·.isEmpty) = some file) (machine : Machine) :
    machine.answer (readEnvFile invocation) =
      (machine.answer (Config.ofFile (Path.ofText file))).map fun _ => () := by
  have hfile : envFile? invocation = some file := by
    rw [envFile?, hlint]
    exact h
  rw [readEnvFile, hfile]
  exact machine.answer_bind_pure ..

/-- What reading the environment file of a request comes to. -/
theorem readEnvFile_cases (hlint : invocation.command = some (.lint request)) (machine : Machine) :
    (request.Configures machine ∧ machine.answer (readEnvFile invocation) = .ok ()) ∨
      (∃ cause e, request.EnvUnreadable machine cause ∧
        machine.answer (readEnvFile invocation) = .error e ∧
        Escape.ofConfigFailure? e = some cause) ∨
      ((¬ request.Configures machine ∧ ∀ cause, ¬ request.EnvUnreadable machine cause) ∧
        ∃ e, machine.answer (readEnvFile invocation) = .error e ∧
          Escape.ofConfigFailure? e = none) := by
  cases hfile : request.envFile.filter (!·.isEmpty) with
  | none =>
    refine .inl ⟨fun file h hne => ?_, answer_readEnvFile_of_none hlint hfile machine⟩
    cases hfile.symm.trans (filter_nonempty_eq_some_iff.mpr ⟨h, hne⟩)
  | some file =>
    obtain ⟨henv, hne⟩ := filter_nonempty_eq_some_iff.mp hfile
    have hunreadable : ∀ cause, request.EnvUnreadable machine cause ↔ ∃ e,
        machine.answer (Config.supplyFile (Path.ofText file)) = .error e ∧
          Escape.ofConfigFailure? e = some cause := by
      simp [LintRequest.EnvUnreadable, henv, hne]
    simp only [LintRequest.Configures, henv, Option.some.injEq, forall_eq', hne, ne_eq,
      not_false_eq_true, forall_const, hunreadable]
    rw [answer_readEnvFile_of_some hlint hfile, Config.answer_ofFile]
    cases machine.answer (Config.supplyFile (Path.ofText file)) with
    | error e =>
      cases hcause : Escape.ofConfigFailure? e with
      | some cause => exact .inr (.inl ⟨cause, e, ⟨e, rfl, hcause⟩, rfl, hcause⟩)
      | none =>
        refine .inr (.inr ⟨⟨nofun, ?_⟩, e, rfl, hcause⟩)
        rintro cause ⟨e', ⟨⟩, hcause'⟩
        cases hcause.symm.trans hcause'
    | ok =>
      dsimp only
      cases hof : Config.of _ {} with
      | ok config => exact .inl ⟨⟨rfl, config, rfl⟩, rfl⟩
      | error e => exact .inr (.inr ⟨⟨nofun, nofun⟩, _, rfl, rfl⟩)

/-- What a run does once its command line was understood. -/
theorem run_eq (h : Invocation.parse words = .ok invocation) :
    run words = (do
      match ← logLevel invocation with
      | .error e => return .escaped e
      | .ok name =>
        Host.setLogWeight (Log.weightOf (Text.upper name))
        runCommand invocation.command : StateM Machine Exit) := by
  unfold run
  split
  · rename_i halt hhalt
    cases hhalt.symm.trans h
  · rename_i other hother
    cases hother.symm.trans h
    exact rfl

theorem answer_logLevel_of_error {e : ConfigFailure}
    (h : machine.answer (readEnvFile invocation) = .error e) :
    machine.answer (logLevel invocation) =
      match Escape.ofConfigFailure? e with
      | some cause => .error cause
      | none => .ok "WARNING" := by
  rw [logLevel, Machine.answer_bind, h]
  dsimp only
  cases Escape.ofConfigFailure? e <;> rfl

/-- The level that a run comes to if it was asked for one. -/
theorem answer_logLevel (hlint : invocation.command = some (.lint request))
    (hlevel : invocation.logLevel = some level) (machine : Machine) :
    (request.Configures machine ∧ machine.answer (logLevel invocation) = .ok level) ∨
      (∃ cause, request.EnvUnreadable machine cause ∧
        machine.answer (logLevel invocation) = .error cause) ∨
      ((¬ request.Configures machine ∧ ∀ cause, ¬ request.EnvUnreadable machine cause) ∧
        machine.answer (logLevel invocation) = .ok "WARNING") := by
  rcases readEnvFile_cases hlint machine with
    ⟨hconf, h⟩ | ⟨cause, e, hunreadable, h, hcause⟩ | ⟨hnot, e, h, hexpected⟩
  · refine .inl ⟨hconf, ?_⟩
    rw [logLevel, Machine.answer_bind, h, hlevel]
    rfl
  · refine .inr (.inl ⟨cause, hunreadable, ?_⟩)
    rw [answer_logLevel_of_error h, hcause]
  · refine .inr (.inr ⟨hnot, ?_⟩)
    rw [answer_logLevel_of_error h, hexpected]

/-- What is done before the command leaves as it is whatever setting a variable and telling an error
do. -/
theorem keeps_logLevel {β : Type} {part : Machine → β}
    (hset : ∀ machine name value, part (Machine.setVariable machine name value) = part machine)
    (htell : ∀ (machine : Machine) (errors : String), part { machine with errors } = part machine)
    (invocation : Invocation) : Keeps part (logLevel invocation) := by
  have hfile : Keeps part (readEnvFile invocation) := by
    unfold readEnvFile
    split
    · exact .pure _
    · refine .bind (.bind (Config.keeps_supplyFile hset htell _) fun supplied => ?_) fun _ => .pure _
      cases supplied with
      | error e => exact .pure _
      | ok => exact Config.keeps_read _
  refine .bind hfile fun result => ?_
  split
  · split <;> exact .pure _
  · split
    · exact .pure _
    · refine .bind (Config.keeps_read _) fun config => ?_
      cases config <;> exact .pure _

theorem run_of_logLevel_error (h : Invocation.parse words = .ok invocation) {cause : Escape}
    (hlevel : machine.answer (logLevel invocation) = .error cause) :
    machine.answer (run words) = .escaped cause ∧
      machine.after (run words) = machine.after (logLevel invocation) := by
  rw [run_eq h, Machine.answer_bind, Machine.after_bind, hlevel]
  exact ⟨rfl, rfl⟩

theorem run_of_logLevel_ok (h : Invocation.parse words = .ok invocation) {name : String}
    (hlevel : machine.answer (logLevel invocation) = .ok name) :
    let ready := { machine.after (logLevel invocation) with
      logWeight? := some (Log.weightOf (Text.upper name)) }
    machine.answer (run words) = ready.answer (runCommand invocation.command) ∧
      machine.after (run words) = ready.after (runCommand invocation.command) := by
  rw [run_eq h, Machine.answer_bind, Machine.after_bind, hlevel]
  exact ⟨rfl, rfl⟩

theorem logWeight_of_logLevel_ok (h : Invocation.parse words = .ok invocation)
    (hlint : invocation.command = some (.lint request)) {name : String}
    (hlevel : machine.answer (logLevel invocation) = .ok name) :
    (machine.after (run words)).logWeight? = some (Log.weightOf (Text.upper name)) := by
  rw [(run_of_logLevel_ok h hlevel).2, hlint]
  exact keeps_lint request _

theorem upper_of_mem_levels (h : level ∈ Invocation.levels) : Text.upper level = level := by
  simp only [Invocation.levels, List.mem_cons, List.not_mem_nil, or_false] at h
  rcases h with rfl | rfl | rfl | rfl <;> decide +kernel

/-- A run that lints scripts and is asked for a level of its log, behind the command or else before
it. Where the environment file is in order, this is the level of the log behind the run. Where there
is no configuration behind that file, it is the level of warnings instead; and an error about that
file that the run does not expect ends the run before there is any. -/
theorem run_logWeight (machine : Machine) (h : Invocation.parse words = .ok invocation)
    (hlint : invocation.command = some (.lint request))
    (hlevel : invocation.logLevel = some level) :
    (∃ outer inner, Invocation.Lints words outer inner ∧
      request = Invocation.lintRequest inner ∧
      (inner.value? "log_level" <|> outer.value? "log_level") = some level) ∧
    level ∈ Invocation.levels ∧
    (request.Configures machine →
      (machine.after (run words)).logWeight? = some (Log.weightOf level)) ∧
    (∀ cause, request.EnvUnreadable machine cause →
      machine.answer (run words) = .escaped cause ∧
        (machine.after (run words)).logWeight? = machine.logWeight?) ∧
    (¬ request.Configures machine → (∀ cause, ¬ request.EnvUnreadable machine cause) →
      (machine.after (run words)).logWeight? = some (Log.weightOf "WARNING")) := by
  obtain ⟨outer, inner, hlints, hrequest, hasked⟩ := Invocation.exists_lints_of_parse h hlint
  rw [hlevel] at hasked
  have hmem := hlints.mem_levels hasked.symm
  refine ⟨⟨outer, inner, hlints, hrequest, hasked.symm⟩, hmem, ?_⟩
  rcases answer_logLevel hlint hlevel machine with
    ⟨hconf, hname⟩ | ⟨cause, hunreadable, hname⟩ | ⟨⟨hnot, hreadable⟩, hname⟩
  · refine ⟨fun _ => ?_, fun cause hcause => absurd hconf hcause.not_configures,
      fun hnot => absurd hconf hnot⟩
    rw [logWeight_of_logLevel_ok h hlint hname, upper_of_mem_levels hmem]
  · refine ⟨fun hconf => absurd hconf hunreadable.not_configures, fun other hother => ?_,
      fun _ hreadable => absurd hunreadable (hreadable cause)⟩
    obtain rfl := hunreadable.unique hother
    obtain ⟨hanswer, hafter⟩ := run_of_logLevel_error h hname
    rw [hafter]
    exact ⟨hanswer, keeps_logLevel (fun _ _ _ => rfl) (fun _ _ => rfl) invocation machine⟩
  · refine ⟨fun hconf => absurd hconf hnot, fun cause hcause => absurd hcause (hreadable cause),
      fun _ _ => ?_⟩
    rw [logWeight_of_logLevel_ok h hlint hname, upper_of_mem_levels (by decide)]

/-- A folder with a script and with an environment file that asks for another level. -/
def quarrelling : Machine :=
  { files := .folder [("a.qb", .file #[0x01]),
      ("x.env", .file (Utf8.encode "QBSCRIPT_LINTER_LOG_LEVEL=DEBUG\n"))]
    formats := Formats.standard }

/-- Of three levels that are asked for, the one behind the command counts. -/
theorem run_logWeight_quarrelling :
    (quarrelling.after (run ["--log-level", "error", "lint", "--log-level=info", "--env-file",
      "x.env", "a.qb"])).logWeight? = some 20 := by
  let request : LintRequest := { paths := ["a.qb"], envFile := "x.env" }
  have hparse : Invocation.parse ["--log-level", "error", "lint", "--log-level=info",
      "--env-file", "x.env", "a.qb"] =
        .ok { logLevel := "INFO", command := some (.lint request) } := by
    decide +kernel
  refine (run_logWeight quarrelling hparse rfl rfl).2.2.1 ?_
  rintro file ⟨⟩ -
  refine ⟨?_, { logLevel := "DEBUG" }, ?_⟩
  · decide +kernel
  · decide +kernel

/-- The level that a run is asked for does not decide if the environment file is no text. -/
theorem not_forall_logWeight : ¬ ∀ (machine : Machine) (words : List String)
    (invocation : Invocation) (request : LintRequest) (level : String),
    Invocation.parse words = .ok invocation → invocation.command = some (.lint request) →
      invocation.logLevel = some level →
      (machine.after (run words)).logWeight? = some (Log.weightOf level) := by
  intro h
  have hweight := h
    { files := .folder [("a.qb", .file #[0x01]), ("x.env", .file #[0xFF])]
      formats := Formats.standard }
    ["--log-level", "error", "lint", "--env-file", "x.env", "a.qb"]
    { logLevel := "ERROR", command := some (.lint { paths := ["a.qb"], envFile := "x.env" }) }
    _ _ (by decide +kernel) rfl rfl
  exact absurd hweight (by decide +kernel)

end Cli

end QbLint
