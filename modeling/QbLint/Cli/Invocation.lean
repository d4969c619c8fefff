import QbLint.Cli.Usage

/-!
# Invocations

What a command line asks the program for, or the reason why the program stops before it does
anything: it was asked for its help or its version, or it was misused.

* `Invocation.parse`: the invocation that the words of a command line come to;
* `Halt.status`, `Halt.output`, `Halt.errors`: how the program stops.
-/

namespace QbLint

/-- What is asked of the command that lints scripts. -/
structure LintRequest where
  paths : List String := []
  format : Option String := none
  output : Option String := none
  compact : Bool := false
  policy : Option String := none
  correctedOpcodes : Bool := false
  recursive : Bool := false
  failOnWarnings : Bool := false
  envFile : Option String := none

/-- A command and what is asked of it. -/
inductive Command
  | lint (request : LintRequest)
  | listRules
  | generatePolicy (output preset : String)

/-- What is asked of the program. -/
structure Invocation where
  logLevel : Option String := none
  command : Option Command := none

/-- A stop of the program or of one of its commands. -/
structure Halt where
  level : Args.Level
  cause : Args.Stop

namespace Halt

/-- The exit status of a stop. -/
def status (halt : Halt) : Nat :=
  match halt.cause with
  | .misuse _ => 2
  | _ => 0

/-- What is written before a stop. -/
def output (halt : Halt) : String :=
  match halt.cause with
  | .help => halt.level.help
  | .version => halt.level.version
  | .misuse _ => ""

/-- What is written to where errors go before a stop. -/
def errors (halt : Halt) : String :=
  match halt.cause with
  | .misuse message => halt.level.usage ++ halt.level.program ++ ": error: " ++ message ++ "\n"
  | _ => ""

end Halt

namespace Invocation

/-- What the words of a command line say to the program or to one of its commands. -/
def readLevel (level : Args.Level) (words : List String) : Except Halt Args.Reading :=
  (Args.read level words).mapError fun cause => ⟨level, cause⟩

/-- What is asked of the command that lints scripts. -/
def lintRequest (r : Args.Reading) : LintRequest :=
  { paths := r.operands
    format := r.value? "format"
    output := r.value? "output"
    compact := r.flag "compact"
    policy := r.value? "policy"
    correctedOpcodes := r.flag "corrected_opcodes"
    recursive := r.flag "recursive"
    failOnWarnings := r.flag "fail_on_warnings"
    envFile := r.value? "env_file" }

/-- A command by its name and the words that belong to it. -/
def readCommand (name : String) (words : List String) :
    Except Halt (Args.Reading × Command) := do
  match name with
  | "lint" =>
    let r ← readLevel Usage.lint words
    return (r, .lint (lintRequest r))
  | "list-rules" => return (← readLevel Usage.listRules words, .listRules)
  | "generate-policy" =>
    let r ← readLevel Usage.generatePolicy words
    return (r, .generatePolicy ((r.value? "output").getD "qb_policy.yaml")
      ((r.value? "preset").getD Preset.balanced.name))
  | name =>
    throw ⟨Usage.main, .misuse
      ("argument command: " ++ Args.invalidChoice name Usage.commands)⟩

/-- The program refuses words that say nothing to it. -/
def refuse (extras : List String) : Except Halt Unit :=
  match extras with
  | [] => .ok ()
  | extras => .error ⟨Usage.main, .misuse ("unrecognized arguments: " ++ " ".intercalate extras)⟩

/-- The invocation that the words of a command line come to. A level of the log that is given to a
command counts more than one that is given to the program. -/
def parse (words : List String) : Except Halt Invocation := do
  let r ← readLevel Usage.main words
  match r.operands with
  | [] =>
    refuse r.extras
    return { logLevel := r.value? "log_level" }
  | name :: words =>
    let (inner, command) ← readCommand name words
    refuse (r.extras ++ inner.extras)
    let logLevel := inner.value? "log_level" <|> r.value? "log_level"
    return { logLevel, command := some command }

end Invocation

end QbLint
