import QbLint.Cli.Invocation
import QbLint.Config.Load
import QbLint.Lint.Run
import QbLint.Policy.File
import QbLint.Report.Json
import QbLint.Report.Markdown
import QbLint.Report.Sarif
import QbLint.Report.Text

/-!
# Running commands

The commands of the program on a host. Most errors are told where errors go and end in a status;
some files that cannot be read or written end the program without one.

* `Cli.run`: a run of the program, from the words of its command line to its end;
* `Cli.lint`, `Cli.listRules`, `Cli.generatePolicy`: the commands.
-/

namespace QbLint

/-- The error that no command expects if a reader of a format gave up, none if something is wrong
with a text or a value. -/
def Escape.ofFormatError? : FormatError → Option Escape
  | .malformed reason => some (.format reason)
  | .unexpected message => some (.format message)
  | .undecodable _ | .badValue _ => none

/-- The error that no command expects if a configuration could not be read, none if it is wrong. -/
def Escape.ofConfigFailure? : ConfigFailure → Option Escape
  | .file e => some (.file e)
  | .format e => ofFormatError? e
  | .config _ | .nullInVariable | .invalidName => none

/-- The end of a run: an exit status, or an error that no command expects. -/
inductive Exit
  | status (code : Nat)
  | escaped (e : Escape)
  deriving DecidableEq

namespace Cli

variable {m : Type → Type} [Monad m] [Host m]

/-- Writes a line. -/
def printLine (s : String) : m Unit := Host.print (s ++ "\n")

/-- Tells an error and ends with the status for errors. -/
def fail (s : String) : m Exit := do
  Host.printError (s ++ "\n")
  return .status 1

/-! ## Linting -/

/-- The policy that a preset's name or a file's path leads to; none or an empty one leads to the
built-in policy. -/
def loadPolicy (value : Option String) : m (Except PolicyFailure Policy) := do
  match value.filter (!·.isEmpty) with
  | none => return .ok (← Policy.readPreset .balanced)
  | some value =>
    match Preset.ofName? value with
    | some preset =>
      let p ← Policy.readPreset preset
      Host.log ⟨.info, .commandLine, "Using " ++ p.name ++ " scan policy (preset)"⟩
      return .ok p
    | none =>
      match ← Policy.ofFile (Path.ofText value) with
      | .error e => return .error e
      | .ok p =>
        Host.log ⟨.info, .commandLine, "Using scan policy: " ++ value ++ " (" ++ p.name ++ ")"⟩
        return .ok p

/-- The end of a run whose policy could not be read. -/
def failPolicy (e : PolicyFailure) : m Exit :=
  match e with
  | .missing _ | .file (.notFound _) => fail ("Error: " ++ e.message)
  | .file cause => return .escaped (.file cause)
  | .unexpected message => return .escaped (.format message)
  | _ => fail ("Error loading configuration: " ++ e.message)

/-- A report in a format. -/
def render (format : OutputFormat) (compact : Bool) (report : Report) : String :=
  match format with
  | .summary => TextReport.render false (.all report)
  | .json => JsonReport.render (if compact then .compact else .indented) (.all report)
  | .markdown => MarkdownReport.render true (.all report)
  | .sarif => SarifReport.render {} (.all report)

/-- Writes a report to a file, or prints it if no file is named. -/
def deliver (output : Option String) (text : String) : m (Except FileError Unit) := do
  match output.filter (!·.isEmpty) with
  | none =>
    printLine text
    return .ok ()
  | some target =>
    match ← Host.write target (Utf8.encode text) with
    | .error e => return .error e
    | .ok () =>
      printLine ("Report saved to: " ++ target)
      return .ok ()

/-- Lints the scripts that a request names, in a format. -/
def lintScripts (request : LintRequest) (config : Config) (format : OutputFormat)
    (policy : Policy) : m Exit := do
  let linter : Linter :=
    { policy :=
        if request.correctedOpcodes then
          { policy with options := { policy.options with correctedRanges := true } }
        else policy
      selection := Selection.of config.maxMegabytes config.suffixes }
  match ← linter.selection.discover request.recursive (request.paths.map Path.ofText) with
  | .error e => return .escaped (.file e)
  | .ok scripts =>
    if scripts.isEmpty then fail "No scripts found."
    else
      match ← linter.lintFiles scripts with
      | .error e => return .escaped e
      | .ok report =>
        match ← deliver request.output (render format request.compact report) with
        | .error e => return .escaped (.file e)
        | .ok () => return .status (report.exitStatus request.failOnWarnings)

/-- The command that lints scripts. -/
def lint (request : LintRequest) : m Exit := do
  if request.paths.isEmpty then
    printLine "No file arguments given!"
    Host.print Usage.lint.usage
    return .status 0
  else
    match ← Config.read { policy := request.policy } with
    | .error e => fail ("Error loading configuration: " ++ e.message)
    | .ok config =>
      match ← loadPolicy config.policy with
      | .error e => failPolicy e
      | .ok policy =>
        let format := (request.format.bind OutputFormat.ofName?).getD config.format
        lintScripts request config format policy

/-! ## Rules and policies -/

/-- The lines about a rule in the list of rules. -/
def ruleLines (rule : Rule × Nat) : List String :=
  ["  " ++ toString rule.2 ++ ". " ++ rule.1.id ++ " (" ++ rule.1.severity.name ++ ")" ++
      (if rule.1.fatal then " [FATAL]" else ""),
    "     " ++ rule.1.title ++ ": " ++ rule.1.description, ""]

/-- The command that lists the rules. -/
def listRules : m Exit := do
  (("Available Rules:\n" :: (Rule.all.zipIdx 1).flatMap ruleLines)).forM printLine
  return .status 0

/-- The command that writes a policy for editing. -/
def generatePolicy (output preset : String) : m Exit := do
  let path := Path.ofText output
  match ← Policy.ofPreset preset with
  | .error e => fail ("Error generating policy: " ++ e.message)
  | .ok policy =>
    match ← policy.save path with
    | .error (.unexpected message) => return .escaped (.format message)
    | .error e => fail ("Error generating policy: " ++ e.message)
    | .ok () =>
      printLine ("Generated " ++ preset ++ " scan policy: " ++ path.toText ++ "\n")
      printLine "Edit the file to customise, then use:"
      printLine
        ("  " ++ Usage.program ++ " lint --policy " ++ path.toText ++ " script.qb\n")
      printLine ("Available presets: " ++ " | ".intercalate Preset.names)
      return .status 0

/-! ## The program -/

/-- The environment file that an invocation names. -/
def envFile? (invocation : Invocation) : Option String :=
  match invocation.command with
  | some (.lint request) => request.envFile.filter (!·.isEmpty)
  | _ => none

/-- Reads the environment file of an invocation, if it names one. -/
def readEnvFile (invocation : Invocation) : m (Except ConfigFailure Unit) := do
  match envFile? invocation with
  | none => return .ok ()
  | some file => return (← Config.ofFile (Path.ofText file)).map fun _ => ()

/-- The name of the level of the log: the one that is asked for, else the configured one. Whatever
is wrong with what the environment file says or with the configuration, the level is that of
warnings. -/
def logLevel (invocation : Invocation) : m (Except Escape String) := do
  match ← readEnvFile invocation with
  | .error e =>
    match Escape.ofConfigFailure? e with
    | some e => return .error e
    | none => return .ok ({} : Config).logLevel
  | .ok () =>
    match invocation.logLevel with
    | some name => return .ok name
    | none =>
      match ← Config.read {} with
      | .ok config => return .ok config.logLevel
      | .error _ => return .ok ({} : Config).logLevel

/-- Runs the command of an invocation; without one, the program explains itself. -/
def runCommand (command : Option Command) : m Exit := do
  match command with
  | some (.lint request) => lint request
  | some .listRules => listRules
  | some (.generatePolicy output preset) => generatePolicy output preset
  | none =>
    Host.print Usage.main.help
    return .status 1

/-- A run of the program. -/
def run (words : List String) : m Exit := do
  match Invocation.parse words with
  | .error halt =>
    Host.print halt.output
    Host.printError halt.errors
    return .status halt.status
  | .ok invocation =>
    match ← logLevel invocation with
    | .error e => return .escaped e
    | .ok name =>
      Host.setLogWeight (Log.weightOf (Text.upper name))
      runCommand invocation.command

end Cli

end QbLint
