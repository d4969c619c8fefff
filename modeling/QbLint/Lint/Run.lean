import QbLint.Lint.Load
import QbLint.Lint.Script

/-!
# Linting files

Linting the scripts of a host one by one, with no state carried from one to the next.

* `Linter.lintFile`: the result of linting a file; one that cannot be loaded has a result too;
* `Linter.lintFiles`, `Linter.lintFolder`: the report on several scripts, and on those of a folder.
-/

namespace QbLint

/-- What is linted for, and which files are taken for scripts. -/
structure Linter where
  policy : Policy := {}
  selection : Selection := {}

namespace Linter

variable {m : Type → Type} [Monad m] [Host m]

/-- The result of linting the bytes of a script. -/
def lintBytes (linter : Linter) (path : String) (data : Bytes) :
    m (Except UnknownSeverity LintResult) := do
  let start ← Host.nanoseconds
  let outcome := Scan.run linter.policy.options data
  (outcome.logLines path data).forM Host.log
  let duration ← Host.durationSince start
  match linter.policy.result path (← Host.now) duration data.size outcome with
  | .ok result =>
    Host.log result.logLine
    return .ok result
  | .error e => return .error e

/-- The result of linting a file. -/
def lintFile (linter : Linter) (path : Path) : m (Except Escape LintResult) := do
  match ← linter.selection.load path with
  | .error e => return .error e
  | .ok (.ok data) => return (← linter.lintBytes path.toText data).mapError .unknownSeverity
  | .ok (.error e) =>
    Host.log ⟨.warning, .linter, "Could not load " ++ path.toText ++ ": " ++ e.message⟩
    return .ok (.notLoaded path.toText (← Host.now) linter.policy.name e.message)

/-- The results of linting some files, in their order, up to the first that has none. -/
def lintEach (linter : Linter) : List Path → m (Except Escape (List LintResult))
  | [] => return .ok []
  | path :: rest => do
    match ← linter.lintFile path with
    | .error e => return .error e
    | .ok result => return (← lintEach linter rest).map (result :: ·)

/-- The report on some files, in their order. -/
def lintFiles (linter : Linter) (paths : List Path) : m (Except Escape Report) := do
  let timestamp ← Host.now
  return (← linter.lintEach paths).map (Report.ofResults timestamp)

/-- The scripts of a folder: those below it, or only those that lie in it. -/
def scriptsOf (linter : Linter) (recursive : Bool) (path : Path) :
    m (Except FileError (List Path)) := do
  if recursive then linter.selection.discover true [path]
  else return (← Host.filesIn path).map linter.selection.scripts

/-- The report on the scripts of a folder. -/
def lintFolder (linter : Linter) (recursive : Bool) (path : Path) :
    m (Except Escape Report) := do
  match ← linter.scriptsOf recursive path with
  | .error e => return .error (.file e)
  | .ok scripts => linter.lintFiles scripts

end Linter

end QbLint
