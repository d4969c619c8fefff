/-!
# Log lines

What the linter tells about its work while it works. Each line has a level, and is written if that
is not below the level that was asked for.

* `Log.weightOf`: the weight of the level with a name; an unknown name means warnings;
* `Log.Line.text`: a line as it is written.
-/

namespace QbLint.Log

/-- How much a line matters. -/
inductive Level
  | debug | info | warning
  deriving DecidableEq

/-- The name of a level. -/
def Level.name : Level → String
  | debug => "DEBUG"
  | info => "INFO"
  | warning => "WARNING"

/-- The weight of a level. -/
def Level.weight : Level → Nat
  | debug => 10
  | info => 20
  | warning => 30

/-- The weights of the names by which a level can be asked for. -/
def weights : List (String × Nat) :=
  [("NOTSET", 0), ("DEBUG", 10), ("INFO", 20), ("WARN", 30), ("WARNING", 30), ("ERROR", 40),
    ("CRITICAL", 50), ("FATAL", 50)]

/-- The weight of the level with a name, in capitals. -/
def weightOf (name : String) : Nat := (weights.lookup name).getD Level.warning.weight

/-- Who tells. -/
inductive Source
  | commandLine | loader | scanner | jumps | collector | linter | policies
  deriving DecidableEq

/-- The name of a source. -/
def Source.name : Source → String
  | commandLine => "qbscript_linter.cli"
  | loader => "qbscript_linter.core.loader"
  | scanner => "qbscript_linter.core.engine"
  | jumps => "qbscript_linter.core.jumps"
  | collector => "qbscript_linter.core.reporter"
  | linter => "qbscript_linter.core.linter"
  | policies => "qbscript_linter.core.scan_policy"

/-- A line of the log. -/
structure Line where
  level : Level
  source : Source
  message : String

/-- A line as it is written. -/
def Line.text (line : Line) : String :=
  line.level.name ++ " " ++ line.source.name ++ ": " ++ line.message ++ "\n"

end QbLint.Log
