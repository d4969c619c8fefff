import QbLint.Text.Case
import QbLint.Text.Numeral
import QbLint.Text.Quoted
import QbLint.Text.Split

/-!
# Configuration

How the linter works when its caller does not say: an environment variable decides what was not
given, and what no variable decides has a default. A value that is given and equals the default
counts as not given.

* `OutputFormat`: the formats of reports on the command line;
* `Config.of`: the configuration that given values and environment variables come to;
* `ConfigError`: a number that is none, or a format that does not exist.
-/

namespace QbLint

/-- The format of a report on the command line. -/
inductive OutputFormat
  | summary | json | markdown | sarif
  deriving DecidableEq, Inhabited

namespace OutputFormat

/-- The formats, in the order in which they are offered. -/
def all : List OutputFormat := [summary, json, markdown, sarif]

/-- The name of a format. -/
def name : OutputFormat → String
  | summary => "summary"
  | json => "json"
  | markdown => "markdown"
  | sarif => "sarif"

/-- The format with a name. -/
def ofName? (s : String) : Option OutputFormat := all.find? (·.name == s)

end OutputFormat

/-- What may be given of a configuration. -/
structure Given where
  policy : Option String := none
  maxMegabytes : Option Int := none
  suffixes : Option (List String) := none
  format : Option String := none
  logLevel : Option String := none
  deriving Inhabited

/-- A configuration. -/
structure Config where
  /-- A policy's preset or file. -/
  policy : Option String := none
  maxMegabytes : Int := 10
  suffixes : List String := [".qb"]
  format : OutputFormat := .summary
  logLevel : String := "WARNING"
  deriving DecidableEq, Inhabited

/-- Why there is no configuration. -/
inductive ConfigError
  | sizeNotInteger (text : String)
  | unknownFormat (name : String)
  deriving DecidableEq

namespace Variable

/-- What the names of the linter's variables begin with. -/
def namePrefix : String := "QBSCRIPT_LINTER_"

/-- The variable for a policy. -/
def policy : String := namePrefix ++ "POLICY"

/-- The variable for the size limit. -/
def maxMegabytes : String := namePrefix ++ "MAX_FILE_SIZE_MB"

/-- The variable for the endings of scripts. -/
def suffixes : String := namePrefix ++ "EXTENSIONS"

/-- The variable for the format of reports. -/
def format : String := namePrefix ++ "FORMAT"

/-- The variable for the level of the log. -/
def logLevel : String := namePrefix ++ "LOG_LEVEL"

/-- The variables that a configuration depends on. -/
def all : List String := [policy, maxMegabytes, suffixes, format, logLevel]

end Variable

/-- An error in words. -/
def ConfigError.message : ConfigError → String
  | sizeNotInteger text =>
    Variable.maxMegabytes ++ " must be an integer, got " ++ Quoted.quote text
  | unknownFormat name =>
    "Unknown output format '" ++ name ++ "'. Available: " ++
      ", ".intercalate (OutputFormat.all.map OutputFormat.name)

namespace Config

/-- The endings in a list with commas, in lower case and behind a dot. -/
def suffixList (s : String) : List String :=
  (Text.split ',' s.toList).filterMap fun part =>
    match (Text.lower (String.ofList (Text.trim part))).toList with
    | [] => none
    | '.' :: rest => some (String.ofList ('.' :: rest))
    | part => some (String.ofList ('.' :: part))

/-- The value of a variable, unless it is empty. -/
def nonempty? (env : String → Option String) (name : String) : Option String :=
  (env name).filter (!·.isEmpty)

/-- The value that is given unless it is the default, else what a variable comes to, else the
default. -/
def choose {α : Type} [DecidableEq α] (given : Option α) (default : α) (fromVariable : Option α) :
    α :=
  if given.getD default = default then fromVariable.getD default else given.getD default

/-- The size limit. -/
def chooseSize (env : String → Option String) (given : Option Int) : Except ConfigError Int :=
  let default : Int := ({} : Config).maxMegabytes
  if given.getD default = default then
    match nonempty? env Variable.maxMegabytes with
    | none => .ok default
    | some text =>
      match Text.parseInt? text with
      | some n => .ok n
      | none => .error (.sizeNotInteger text)
  else .ok (given.getD default)

/-- The configuration that given values and environment variables come to. -/
def of (env : String → Option String) (given : Given) : Except ConfigError Config := do
  let standard : Config := {}
  let maxMegabytes ← chooseSize env given.maxMegabytes
  let format :=
    choose given.format standard.format.name ((nonempty? env Variable.format).map Text.lower)
  match OutputFormat.ofName? format with
  | none => .error (.unknownFormat format)
  | some format =>
    return {
      policy := given.policy <|> nonempty? env Variable.policy
      maxMegabytes
      suffixes :=
        choose given.suffixes standard.suffixes ((nonempty? env Variable.suffixes).map suffixList)
      format
      logLevel :=
        choose given.logLevel standard.logLevel ((nonempty? env Variable.logLevel).map Text.upper) }

end Config

end QbLint
